import Frontend.Text.Cluster.Table

namespace Frontend.Text

/-!
# Clusters

A cluster is one character as a reader counts them: a letter with all its accents, a syllable of
Hangul, a flag, an emoji made of several.  The rules are those of Unicode for extended grapheme
clusters, version 17.0.

* `BreakClass`, `breakClass` — the classes of characters the rules speak of;
* `joins` — whether a character belongs to the cluster before it;
* `clusters` — the clusters of a text, which is their concatenation (`flatten_clusters`).

A cluster under construction is kept with its last character first, since the rules look back from
its end.
-/

/-! ### Classes -/

/-- What a character is to the rules. -/
inductive BreakClass where
  | carriageReturn
  | lineFeed
  | control
  /-- A sign written before the letter it belongs to. -/
  | prepend
  /-- A mark on the character before it. -/
  | extend
  /-- The zero-width joiner. -/
  | joiner
  /-- A vowel sign that takes room of its own. -/
  | spacingMark
  /-- Half of a flag. -/
  | regional
  | pictograph
  /-- A letter that can join into a conjunct. -/
  | consonant
  /-- The first letter of a syllable of Hangul. -/
  | leading
  /-- A vowel of Hangul. -/
  | vowel
  /-- The last letter of a syllable of Hangul. -/
  | trailing
  /-- A syllable of Hangul that ends with its vowel. -/
  | openSyllable
  /-- A syllable of Hangul that ends with a consonant. -/
  | closedSyllable
  | other
  deriving DecidableEq

/-- The class of a letter or syllable of Hangul. -/
def hangulClass? (n : Nat) : Option BreakClass :=
  if inRanges [(0x1100, 0x115F), (0xA960, 0xA97C)] n then some .leading
  else if
    inRanges [(0x1160, 0x11A7), (0xD7B0, 0xD7C6), (0x16D63, 0x16D63), (0x16D67, 0x16D6A)] n then
    some .vowel
  else if inRanges [(0x11A8, 0x11FF), (0xD7CB, 0xD7FB)] n then some .trailing
  else if inRanges [(0xAC00, 0xD7A3)] n then
    some (if (n - 0xAC00) % 28 = 0 then .openSyllable else .closedSyllable)
  else none

/-- The class of a character. -/
def breakClass (c : Char) : BreakClass :=
  let n := c.toNat
  if n = 0x0D then .carriageReturn
  else if n = 0x0A then .lineFeed
  else if inRanges controlRanges n then .control
  else if n = 0x200D then .joiner
  else if inRanges extendRanges n then .extend
  else if inRanges spacingMarkRanges n then .spacingMark
  else if inRanges prependRanges n then .prepend
  else if inRanges [(0x1F1E6, 0x1F1FF)] n then .regional
  else if inRanges pictographRanges n then .pictograph
  else if inRanges consonantRanges n then .consonant
  else (hangulClass? n).getD .other

namespace BreakClass

/-- The classes that neither join nor are joined, but for the two ends of a line in their order. -/
def standsAlone : BreakClass → Bool
  | carriageReturn | lineFeed | control => true
  | _ => false

/-- The classes that join whatever is before them. -/
def trails : BreakClass → Bool
  | extend | joiner | spacingMark => true
  | _ => false

/-- Whether two characters follow each other inside a syllable of Hangul. -/
def inSyllable : BreakClass → BreakClass → Bool
  | leading, after => [leading, vowel, openSyllable, closedSyllable].contains after
  | openSyllable, after | vowel, after => [vowel, trailing].contains after
  | closedSyllable, after | trailing, after => after == trailing
  | _, _ => false

end BreakClass

/-! ### Looking back -/

/-- Whether a text, its last character first, ends with a consonant, then marks that join the
    consonant to come. -/
def endsInConjunct (text : List Char) : Bool :=
  let isMark c := breakClass c == .joiner || (breakClass c == .extend && c != '\u200c')
  (text.takeWhile isMark).any (fun c => inRanges linkerRanges c.toNat) &&
    (text.dropWhile isMark).head?.any (breakClass · == .consonant)

/-- Whether a text, its last character first, ends with a pictograph and marks on it. -/
def endsInPictograph (text : List Char) : Bool :=
  (text.dropWhile (breakClass · == .extend)).head?.any (breakClass · == .pictograph)

/-- Whether a text, its last character first, ends with half a flag that still lacks its other
    half. -/
def endsInHalfFlag (text : List Char) : Bool :=
  (text.takeWhile (breakClass · == .regional)).length % 2 == 1

/-- Whether a character belongs to a cluster, whose last character comes first. -/
def joins (cluster : List Char) (c : Char) : Bool :=
  match cluster with
  | [] => false
  | last :: earlier =>
    let before := breakClass last
    let after := breakClass c
    if before = .carriageReturn ∧ after = .lineFeed then true
    else if before.standsAlone || after.standsAlone then false
    else
      after.trails || before == .prepend || before.inSyllable after ||
        (after == .consonant && endsInConjunct cluster) ||
        (before == .joiner && after == .pictograph && endsInPictograph earlier) ||
        (after == .regional && endsInHalfFlag cluster)

/-! ### Cutting -/

/-- Adds a character to a text that has been cut.  The last cluster comes first, and in each
    cluster the last character. -/
def attach (clusters : List (List Char)) (c : Char) : List (List Char) :=
  match clusters with
  | [] => [[c]]
  | last :: earlier => if joins last c then (c :: last) :: earlier else [c] :: last :: earlier

/-- The clusters of a text. -/
def clusters (text : List Char) : List (List Char) :=
  ((text.foldl attach []).map List.reverse).reverse

@[simp] theorem clusters_nil : clusters [] = [] := rfl

private theorem flatten_foldl_attach (text : List Char) (before : List (List Char)) :
    (((text.foldl attach before).map List.reverse).reverse).flatten =
      ((before.map List.reverse).reverse).flatten ++ text := by
  induction text generalizing before with
  | nil => simp
  | cons c rest ih =>
    rw [List.foldl_cons, ih]
    unfold attach
    split
    · simp
    · split <;> simp

/-- Cutting loses nothing. -/
@[simp] theorem flatten_clusters (text : List Char) : (clusters text).flatten = text := by
  simpa [clusters] using flatten_foldl_attach text []

/-- An accent belongs to its letter, and two flags are two clusters. -/
example :
    clusters ['e', '\u0301', 'x', '🇩', '🇪', '🇫', '🇷'] =
      [['e', '\u0301'], ['x'], ['🇩', '🇪'], ['🇫', '🇷']] := by decide +kernel

end Frontend.Text
