import SyntaxInspector.Text.Split
import SyntaxInspector.Tree.SyntaxTree

/-!
# Node descriptors

A descriptor such as `firstChild.nextSibling.endPosition` is a way from a node to another one,
optionally followed by the edge of that node which is meant.

* `Descriptor.parse` — reads a descriptor;
* `Descriptor.text` — writes it;
* `Descriptor.resolve?` — follows it.
-/

namespace SyntaxInspector

/-- A point of a document with its byte offset. -/
structure Anchor where
  /-- Row and column. -/
  point : Point
  /-- Byte offset in the document. -/
  byte : Nat
  deriving DecidableEq, Inhabited

namespace NodeData

/-- Where a node starts. -/
def startAnchor (d : NodeData) : Anchor := ⟨d.range.start, d.startByte⟩

/-- Where a node ends. -/
def endAnchor (d : NodeData) : Anchor := ⟨d.range.stop, d.endByte⟩

end NodeData

namespace Step

/-- All steps. -/
def all : List Step :=
  [.parent, .firstChild, .lastChild, .firstNamedChild, .lastNamedChild, .nextSibling,
   .previousSibling, .nextNamedSibling, .previousNamedSibling]

/-- The name of a step in descriptors. -/
def name : Step → String
  | .parent => "parent"
  | .firstChild => "firstChild"
  | .lastChild => "lastChild"
  | .firstNamedChild => "firstNamedChild"
  | .lastNamedChild => "lastNamedChild"
  | .nextSibling => "nextSibling"
  | .previousSibling => "previousSibling"
  | .nextNamedSibling => "nextNamedSibling"
  | .previousNamedSibling => "previousNamedSibling"

/-- The step with a given name. -/
def ofName? (name : String) : Option Step := all.find? (·.name == name)

end Step

/-- One of the two ends of a node. -/
inductive Edge where
  /-- Where the node starts. -/
  | start
  /-- Where the node ends. -/
  | stop
  deriving DecidableEq, Inhabited

namespace Edge

/-- The name of an edge in descriptors. -/
def name : Edge → String
  | .start => "startPosition"
  | .stop => "endPosition"

/-- The edge with a given name. -/
def ofName? (name : String) : Option Edge := [start, stop].find? (·.name == name)

/-- The edge of a node. -/
def anchor (d : NodeData) : Edge → Anchor
  | .start => d.startAnchor
  | .stop => d.endAnchor

end Edge

/-- A way from a node to an edge of another one. -/
structure Descriptor where
  /-- The steps, in order. -/
  steps : List Step
  /-- The edge meant, if the descriptor says so. -/
  edge : Option Edge
  deriving DecidableEq, Inhabited

/-- Why a text is no descriptor. -/
inductive DescriptorError where
  /-- An edge stands before the last part. -/
  | misplacedEdge (part whole : String)
  /-- A part names neither a step nor an edge. -/
  | unknownStep (part whole : String)
  deriving DecidableEq

/-- The error in words. -/
def DescriptorError.message : DescriptorError → String
  | .misplacedEdge part whole => s!"'{part}' must end the descriptor '{whole}'"
  | .unknownStep part whole => s!"unknown step '{part}' in descriptor '{whole}'"

namespace Descriptor

/-- Reads the parts of a descriptor; `whole` is for the error. -/
def ofParts (whole : String) : List String → Except DescriptorError Descriptor
  | [] => .ok ⟨[], none⟩
  | part :: rest =>
    match Edge.ofName? part with
    | some edge => if rest.isEmpty then .ok ⟨[], some edge⟩ else .error (.misplacedEdge part whole)
    | none =>
      match Step.ofName? part with
      | none => .error (.unknownStep part whole)
      | some step => do
        let tail ← ofParts whole rest
        return { tail with steps := step :: tail.steps }

/-- Reads a descriptor. -/
def parse (text : String) : Except DescriptorError Descriptor :=
  ofParts text (splitText (· = '.') text)

/-- The names of the steps and of the edge. -/
def parts (d : Descriptor) : List String :=
  d.steps.map Step.name ++ (d.edge.map Edge.name).toList

/-- Writes a descriptor. -/
def text (d : Descriptor) : String := joinText '.' d.parts

/-- The node at the end of the steps, if they lead anywhere. -/
def target? (t : SyntaxTree) (c : Cursor) : List Step → Option Cursor
  | [] => some c
  | step :: steps => (t.follow c step).bind fun c => target? t c steps

/-- The anchor that a descriptor means, from a node on; `fallback` is the edge it leaves open. -/
def resolve? (d : Descriptor) (t : SyntaxTree) (c : Cursor) (fallback : Edge) : Option Anchor :=
  (target? t c d.steps).map fun c => (d.edge.getD fallback).anchor c.data

end Descriptor

end SyntaxInspector
