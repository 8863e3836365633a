/-
# Interpolations

An interpolation goes from two opening braces to the nearest two closing ones. Reading from left to
right cuts a text into plain stretches and interpolations, and perhaps an interpolation that does
not end. While source text is cut into tags the signs `<` inside interpolations are masked by a
character of the private range, unless the interpolation runs over the end tag of a block.
-/

import SfcLint.Markup.Node
import SfcLint.Pattern.Search

namespace SfcLint.Markup

/-- A stretch of text that is plain, inside an interpolation, or after an opening that never
closes. -/
inductive Segment
  | plain (t : Text)
  | braced (t : Text)
  | unclosed (t : Text)
  deriving DecidableEq, Repr

namespace Segment

/-- The stretch with one more character at its front. -/
def cons (c : Char) : Segment → Segment
  | plain t => plain (c :: t)
  | braced t => braced (c :: t)
  | unclosed t => unclosed (c :: t)

/-- The stretch as written. -/
def source : Segment → Text
  | plain t => t
  | braced t => '\x7b' :: '\x7b' :: (t ++ ['\x7d', '\x7d'])
  | unclosed t => '\x7b' :: '\x7b' :: t

end Segment

/-- Puts a character before the first of some stretches. -/
def consSegment (c : Char) : List Segment → List Segment
  | [] => [.plain [c]]
  | segment :: segments => segment.cons c :: segments

/-- The stretches of a text that starts inside an interpolation or outside. -/
def segmentsFrom : Bool → Text → List Segment
  | false, [] => [.plain []]
  | true, [] => [.unclosed []]
  | false, '\x7b' :: '\x7b' :: t => .plain [] :: segmentsFrom true t
  | true, '\x7d' :: '\x7d' :: t => .braced [] :: segmentsFrom false t
  | inside, c :: t => consSegment c (segmentsFrom inside t)

/-- The plain stretches and the interpolations of a text, from left to right. -/
def segments (t : Text) : List Segment := segmentsFrom false t

/-- The character that stands for `<` inside interpolations. -/
def mask : Char := '\ue000'

/-- The text with every `<` masked. -/
def masked (t : Text) : Text := t.map fun c => if c = '<' then mask else c

/-- The text with every masked `<` restored. -/
def unmasked (t : Text) : Text := t.map fun c => if c = mask then '<' else c

open Pattern in
/-- The start of the end tag of a block. -/
def blockEnd : Pattern :=
  all ["</", any [caseless "template", caseless "script", caseless "style"], edge]

/-- The stretch as the tags are read from it. -/
def Segment.maskedSource : Segment → Text
  | plain t => t
  | braced t =>
      if blockEnd.occursIn (braced t).source then (braced t).source
      else masked (braced t).source
  | unclosed t => (unclosed t).source

/-- The source text as the tags are read from it. No offset changes. -/
def maskInterpolations (t : Text) : Text := (segments t).flatMap Segment.maskedSource

/-- The nodes of some stretches that start at a position, up to an interpolation that does not
end; then its position. -/
def nodesFrom : Position → List Segment → Except Position (List Node)
  | _, [] => .ok []
  | position, segment :: later =>
      match segment with
      | .plain t => do
          let nodes ← nodesFrom (position.after t) later
          return if Text.allBlank t then nodes else .text t position :: nodes
      | .braced t => do
          let nodes ← nodesFrom (position.after (Segment.braced t).source) later
          return .interpolation (Text.strip t) position :: nodes
      | .unclosed _ => .error position

/-- The nodes of a run of text that starts at a position, or the position of an interpolation that
does not end. -/
def nodesOfRun (position : Position) (run : Text) : Except Position (List Node) :=
  nodesFrom position (segments run)

end SfcLint.Markup
