/-
This file cuts a text into clusters, the pieces that a reader takes for one
character each. A cluster takes in the next character as long as it joins; what
joins is decided by the last character of the cluster and the next one, and for
flags, pictures and linked consonants by what stands before these two. None of
that reaches back behind the start of the cluster.
-/

import Scriptling.Text.Joining

namespace Scriptling.Cluster

/-- Whether a consonant is linked to the end of a cluster: before it stand marks, a linker among
them, and before these another consonant. The letters of the cluster come last first. -/
def linksConsonant (before : List Joining) : Bool :=
  (before.takeWhile Joining.linksThrough).contains .linker &&
    (before.dropWhile Joining.linksThrough).head? == some .consonant

/-- Whether a joiner after some letters, which come last first, puts another picture to them. -/
def joinsPictograph (before : List Joining) : Bool :=
  (before.dropWhile Joining.isExtender).head? == some .pictograph

/-- Whether the last letter of a flag is still without its second. -/
def wantsRegional (before : List Joining) : Bool :=
  (before.takeWhile (· == .regional)).length % 2 == 1

/-- Whether a letter belongs to the cluster that some letters, the last first, have begun. -/
def takesIn (before : List Joining) (next : Joining) : Bool :=
  match before, next with
  | [], _ => true
  | .carriageReturn :: _, .newline => true
  | .carriageReturn :: _, _ | .newline :: _, _ | .control :: _, _ => false
  | _, .carriageReturn | _, .newline | _, .control => false
  | .leading :: _, .leading | .leading :: _, .vowel | .leading :: _, .openSyllable
  | .leading :: _, .closedSyllable => true
  | .openSyllable :: _, .vowel | .openSyllable :: _, .trailing => true
  | .vowel :: _, .vowel | .vowel :: _, .trailing => true
  | .closedSyllable :: _, .trailing | .trailing :: _, .trailing => true
  | _, .extender | _, .linker | _, .nonJoiner | _, .joiner | _, .spacer => true
  | .opener :: _, _ => true
  | before, .consonant => linksConsonant before
  | .joiner :: earlier, .pictograph => joinsPictograph earlier
  | before, .regional => wantsRegional before
  | _, _ => false

/-- The clusters of some letters after a cluster that has begun, whose letters come last
first. -/
def cutAfter (begun : List Char) : List Char → List (List Char)
  | [] => if begun.isEmpty then [] else [begun.reverse]
  | letter :: rest =>
    if takesIn (begun.map Joining.ofLetter) (Joining.ofLetter letter) then
      cutAfter (letter :: begun) rest
    else begun.reverse :: cutAfter [letter] rest

/-- The clusters of a text. -/
def cut (letters : List Char) : List (List Char) :=
  cutAfter [] letters

end Scriptling.Cluster
