import Mathlib.Tactic.SplitIfs
import RoutingPlane.Report.Page

/-!
The tags of hypertext. A reader finds them in one pass over the characters: it tells what stands
between tags from what stands in them and in quotes inside them, and it knows the elements in
whose text only their own end is a tag. An escaped text that stands where text may stand leaves
the reader where it is, so the tags of a page are those of its layout.
-/

namespace RoutingPlane.Hypertext

/-! ## Finding the tags -/

/-- Where a reader stands. Of a tag it keeps what it has read, the last character first. -/
inductive Place where
  | content
  /-- After the mark that may open a tag. -/
  | opened
  | tag (read : List Char)
  /-- In a quoted value of a tag. -/
  | quoted (mark : Char) (read : List Char)
  /-- In the text of an element that is left only by the end tag of its name. -/
  | inside (element : List Char)
  /-- In the text of such an element, after the mark that may open its end tag. -/
  | closing (element : List Char) (read : List Char)
  deriving DecidableEq, Repr

/-- The elements whose text holds no tags and is not shown. -/
def rawElements : List String :=
  ["iframe", "noembed", "noframes", "script", "style", "xmp"]

/-- The elements whose text holds no tags but is a text like any other. -/
def textElements : List String :=
  ["textarea", "title"]

/-- Whether a text may be inserted at a place: between tags, but neither in a tag nor where a
script or a style stands. -/
def Place.holdsText : Place → Bool
  | content => true
  | inside element => textElements.contains (String.ofList element)
  | _ => false

def endsName (c : Char) : Bool :=
  c.isWhitespace || c = '/' || c = '>'

/-- Whether a character after an opening mark makes it a tag or a declaration. -/
def opensTag (c : Char) : Bool :=
  c.isAlpha || c = '/' || c = '!' || c = '?'

/-- Whether a mark after what has been read of a tag opens a quoted value. -/
def opensQuote (read : List Char) (c : Char) : Bool :=
  (c = '"' || c = '\'') && (read.dropWhile Char.isWhitespace).head? == some '='

def Place.afterTag (written : List Char) : Place :=
  let element := (written.tail.takeWhile fun c => !endsName c).map Char.toLower
  if (rawElements ++ textElements).contains (String.ofList element) then inside element
  else content

/-- Reads a character of a tag, and tells the tag at its end. -/
def stepInTag (read : List Char) (c : Char) : Place × Option String :=
  let written := (c :: read).reverse
  if c = '>' then (Place.afterTag written, some (String.ofList written))
  else if opensQuote read c then (.quoted c (c :: read), none)
  else (.tag (c :: read), none)

/-- Reads a character of what may be the end tag of an element. -/
def stepClosing (element read : List Char) (c : Char) : Place × Option String :=
  let expected := '<' :: '/' :: element
  if c = '<' then (.closing element [c], none)
  else if read.reverse.map Char.toLower = expected then
    if endsName c then stepInTag read c else (.inside element, none)
  else if ((c :: read).reverse.map Char.toLower).isPrefixOf expected then
    (.closing element (c :: read), none)
  else (.inside element, none)

/-- Reads a character, and tells the tag that it completes. -/
def step : Place → Char → Place × Option String
  | .content, c => (if c = '<' then .opened else .content, none)
  | .opened, c =>
      if c = '<' then (.opened, none)
      else if opensTag c then (.tag [c, '<'], none)
      else (.content, none)
  | .tag read, c => stepInTag read c
  | .quoted mark read, c =>
      (if c = mark then .tag (c :: read) else .quoted mark (c :: read), none)
  | .inside element, c => (if c = '<' then .closing element [c] else .inside element, none)
  | .closing element read, c => stepClosing element read c

def placeAfter (place : Place) (written : List Char) : Place :=
  written.foldl (fun place c => (step place c).1) place

def tagsFrom : Place → List Char → List String
  | _, [] => []
  | place, c :: rest =>
      (step place c).2.toList ++ tagsFrom (step place c).1 rest

/-- The tags of a page, in order and as they are written. -/
def tags (page : String) : List String :=
  tagsFrom .content page.toList

example : tags "<p title=\"a > b\">1 < 2</p><script>if (a</b>c) d()</SCRIPT >" =
    ["<p title=\"a > b\">", "</p>", "<script>", "</SCRIPT >"] := by
  decide +kernel

variable {place last : Place} {c : Char} {front back chars : List Char}

theorem placeAfter_append : placeAfter place (front ++ back) =
    placeAfter (placeAfter place front) back :=
  List.foldl_append

theorem tagsFrom_append : tagsFrom place (front ++ back) =
    tagsFrom place front ++ tagsFrom (placeAfter place front) back := by
  induction front generalizing place with
  | nil => rfl
  | cons c rest inductionHypothesis =>
      rw [List.cons_append, tagsFrom, inductionHypothesis, tagsFrom, List.append_assoc]
      rfl

theorem step_of_holdsText (holdsText : place.holdsText = true) (isPlain : c ≠ '<') :
    step place c = (place, none) := by
  cases place with
  | content => rw [step, if_neg isPlain]
  | inside element => rw [step, if_neg isPlain]
  | _ => cases holdsText

/-- Where text may stand, characters that open no tag leave a reader where it is. -/
theorem read_of_holdsText (holdsText : place.holdsText = true) (arePlain : '<' ∉ chars) :
    placeAfter place chars = place ∧ tagsFrom place chars = [] := by
  induction chars with
  | nil => exact ⟨rfl, rfl⟩
  | cons c rest inductionHypothesis =>
      rw [List.mem_cons, not_or] at arePlain
      have stays := step_of_holdsText holdsText (Ne.symm arePlain.1)
      obtain ⟨placeStays, noTags⟩ := inductionHypothesis arePlain.2
      constructor
      · rw [placeAfter, List.foldl_cons, stays]
        exact placeStays
      · rw [tagsFrom, stays, noTags]
        rfl

theorem placeAfter_flatMap {α : Type} {items : List α} {partOf : α → List Char}
    (stays : ∀ item ∈ items, placeAfter place (partOf item) = place) :
    placeAfter place (items.flatMap partOf) = place := by
  induction items with
  | nil => rfl
  | cons item rest inductionHypothesis =>
      rw [List.forall_mem_cons] at stays
      rw [List.flatMap_cons, placeAfter_append, stays.1, inductionHypothesis stays.2]

/-! ## Escaped texts -/

theorem not_mem_escapedChar (c : Char) :
    ∀ mark ∈ ['<', '>', '\'', '"'], mark ∉ PagePiece.escapedChar c := by
  unfold PagePiece.escapedChar
  split_ifs with isAmpersand opens closes isApostrophe isQuote
  case neg =>
    intro mark isMark isEscape
    obtain rfl := List.mem_singleton.1 isEscape
    simp [opens, closes, isApostrophe, isQuote] at isMark
  all_goals
    rw [List.forall_mem_cons, List.forall_mem_cons, List.forall_mem_cons,
      List.forall_mem_singleton]
    decide

/-- A text is written without the marks that could open or end a tag or a value in it. -/
theorem not_mem_written_text {mark : Char} (isMark : mark ∈ ['<', '>', '\'', '"'])
    (shown : String) : mark ∉ (PagePiece.text shown).written := by
  intro isWritten
  obtain ⟨c, _, isEscape⟩ := List.mem_flatMap.1 isWritten
  exact not_mem_escapedChar c mark isMark isEscape

/-! ## Layouts -/

/-- A piece of a layout: markup, or a gap for a text. -/
inductive Slot where
  | markup (written : String)
  | gap
  deriving DecidableEq, Repr

/-- The characters of a layout with texts in its gaps, each of them escaped. -/
def filled : List Slot → List String → List Char
  | [], _ => []
  | .markup written :: rest, texts => written.toList ++ filled rest texts
  | .gap :: rest, [] => filled rest []
  | .gap :: rest, shown :: texts => (PagePiece.text shown).written ++ filled rest texts

/-- Where a reader stands after a layout, if all of its gaps are where text may stand. -/
def walk? : Place → List Slot → Option Place
  | place, [] => some place
  | place, .markup written :: rest => walk? (placeAfter place written.toList) rest
  | place, .gap :: rest => if place.holdsText then walk? place rest else none

/-- A block of a layout begins and ends between tags. -/
def IsBlock (layout : List Slot) : Prop :=
  walk? .content layout = some .content

instance (layout : List Slot) : Decidable (IsBlock layout) :=
  inferInstanceAs (Decidable (_ = _))

theorem walk?_append (start : Place) (front back : List Slot) :
    walk? start (front ++ back) = (walk? start front).bind fun place => walk? place back := by
  induction front generalizing start with
  | nil => rfl
  | cons slot rest inductionHypothesis =>
      cases slot with
      | markup written => exact inductionHypothesis _
      | gap =>
          rw [List.cons_append, walk?, walk?]
          split
          · exact inductionHypothesis start
          · rfl

theorem IsBlock.append {front back : List Slot} (isFront : IsBlock front) (isBack : IsBlock back) :
    IsBlock (front ++ back) := by
  rw [IsBlock, walk?_append, isFront]
  exact isBack

theorem IsBlock.flatMap {α : Type} {items : List α} {partOf : α → List Slot}
    (areBlocks : ∀ item ∈ items, IsBlock (partOf item)) : IsBlock (items.flatMap partOf) := by
  induction items with
  | nil => rfl
  | cons item rest inductionHypothesis =>
      rw [List.forall_mem_cons] at areBlocks
      exact areBlocks.1.append (inductionHypothesis areBlocks.2)

/-- Texts in the gaps of a layout neither add nor remove or change tags. -/
theorem tagsFrom_filled {layout : List Slot} {texts : List String}
    (walks : walk? place layout = some last) :
    tagsFrom place (filled layout texts) = tagsFrom place (filled layout []) := by
  induction layout generalizing place texts with
  | nil => rfl
  | cons slot rest inductionHypothesis =>
      cases slot with
      | markup written =>
          rw [filled, filled, tagsFrom_append, tagsFrom_append, inductionHypothesis walks]
      | gap =>
          rw [walk?] at walks
          split at walks
          next holdsText =>
            cases texts with
            | nil => rfl
            | cons shown texts =>
                obtain ⟨placeStays, noTags⟩ :=
                  read_of_holdsText holdsText (not_mem_written_text (by decide) shown)
                rw [filled, filled, tagsFrom_append, placeStays, noTags, List.nil_append]
                exact inductionHypothesis walks
          · cases walks

end RoutingPlane.Hypertext
