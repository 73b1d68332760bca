import EventCanvas.Text.Quoted

/-!
# Similar words

Two words are as similar as they share runs of characters: the longest run that
they have in common, then the longest ones to the left and to the right of it,
and so on.  `similarTo` picks the words out of a row that are similar enough to
a given one to be suggested in its place.
-/

namespace EventCanvas.Text

/-- How many characters at their fronts two words have in common. -/
def commonFront : List Char → List Char → Nat
  | a :: as, b :: bs => if a = b then commonFront as bs + 1 else 0
  | _, _ => 0

/-- A run of characters that two words have in common: where it begins in each, and its length. -/
structure Run where
  left : Nat
  right : Nat
  length : Nat
deriving DecidableEq, Inhabited

/-- The longer of two runs; of two that are equally long the first. -/
def Run.longer (r s : Run) : Run := if r.length < s.length then s else r

/-- The longest of a run and those that begin at `i` in one word, whose rest is given, and at `j`
or later in the other. -/
def longestAt (i : Nat) (as : List Char) : Nat → List Char → Run → Run
  | _, [], best => best
  | j, b :: bs, best =>
    longestAt i as (j + 1) bs (best.longer ⟨i, j, commonFront as (b :: bs)⟩)

/-- The longest of a run and those that begin at `i` or later in one word, whose rest is given. -/
def longestFrom (bs : List Char) : Nat → List Char → Run → Run
  | _, [], best => best
  | i, a :: as, best => longestFrom bs (i + 1) as (longestAt i (a :: as) 0 bs best)

/-- The longest run of two words: of several the one furthest to the left in the first word. -/
def longestRun (as bs : List Char) : Run := longestFrom bs 0 as ⟨0, 0, 0⟩

/-- How many characters the runs of two words have, where runs are split as often as given. -/
def sharedWithin : Nat → List Char → List Char → Nat
  | 0, _, _ => 0
  | fuel + 1, as, bs =>
    let r := longestRun as bs
    if r.length = 0 then 0
    else
      sharedWithin fuel (as.take r.left) (bs.take r.right) + r.length +
        sharedWithin fuel (as.drop (r.left + r.length)) (bs.drop (r.right + r.length))

/-- How many characters two words share.  Every split leaves out at least one character. -/
def shared (as bs : List Char) : Nat := sharedWithin as.length as bs

/-- A word with how many characters it shares with another, out of how many in both. -/
structure Rated where
  word : String
  shared : Nat
  total : Nat
deriving DecidableEq

namespace Rated

/-- Rates a word by its similarity to another. -/
def rate (word candidate : String) : Rated :=
  ⟨candidate, Text.shared candidate.toList word.toList, candidate.length + word.length⟩

/-- Whether two words are similar: six characters of ten are shared. -/
def isClose (r : Rated) : Bool := 6 * r.total ≤ 10 * (2 * r.shared)

/-- Whether a word is suggested before another: the more similar one, else the one that is later
in the order of texts. -/
def precedes (r s : Rated) : Bool :=
  s.shared * r.total < r.shared * s.total ||
    (s.shared * r.total = r.shared * s.total && s.word ≤ r.word)

end Rated

/-- How many words are suggested at most. -/
def mostSuggestions : Nat := 3

/-- The words of a row that are similar to a word, at most three of them, in the order of texts. -/
def similarTo (word : String) (candidates : List String) : List String :=
  let close := (candidates.map (Rated.rate word)).filter Rated.isClose
  let best := (close.mergeSort Rated.precedes).take mostSuggestions
  (best.map Rated.word).mergeSort fun a b => a ≤ b

/-- A question after the words that may have been meant; nothing if there are none. -/
def suggestion : List String → String
  | [] => ""
  | [word] => " Did you mean " ++ quoted word ++ "?"
  | words => " (Did you mean one of: " ++ ", ".intercalate (words.map quoted) ++ "?)"

end EventCanvas.Text
