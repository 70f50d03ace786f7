import LexReport.Proofs.Pattern.Matching
import LexReport.Proofs.Scan.Extent

/-! How a match goes on: the laws of the parts that patterns are built of. -/

set_option autoImplicit false

namespace LexReport.Scan

open Text

namespace Cursor

variable (cursor : Cursor)

@[simp] theorem forward_zero : cursor.forward 0 = cursor := by
  simp [forward]

@[simp] theorem forward_forward (first second : Nat) :
    (cursor.forward first).forward second = cursor.forward (first + second) := by
  simp [forward, List.take_add, List.drop_drop]

@[simp] theorem forward_append (seen text rest : List Char) (captures : List Capture) :
    (Cursor.mk seen (text ++ rest) captures).forward text.length =
      ⟨text.reverse ++ seen, rest, captures⟩ := by
  simp [forward]

@[simp] theorem forward_one (seen : List Char) (c : Char) (rest : List Char)
    (captures : List Capture) :
    (Cursor.mk seen (c :: rest) captures).forward 1 = ⟨c :: seen, rest, captures⟩ := rfl

@[simp] theorem forward_cons (seen : List Char) (c : Char) (rest : List Char)
    (captures : List Capture) (count : Nat) :
    (Cursor.mk seen (c :: rest) captures).forward (count + 1) =
      (Cursor.mk (c :: seen) rest captures).forward count := by
  simp [forward]

@[simp] theorem forward_append_cons (seen text : List Char) (c : Char) (rest : List Char)
    (captures : List Capture) :
    (Cursor.mk seen (text ++ c :: rest) captures).forward (text.length + 1) =
      ⟨c :: (text.reverse ++ seen), rest, captures⟩ := by
  rw [← forward_forward, forward_append, forward_one]

end Cursor

namespace Pattern

variable {α : Type} {next : Cursor → Option α}

theorem attempt_char (set : CharSet) (seen : List Char) (c : Char) (rest : List Char)
    (captures : List Capture) :
    (char set).attempt ⟨seen, c :: rest, captures⟩ next =
      if set.holds c then next ⟨c :: seen, rest, captures⟩ else none := rfl

theorem greedily_char_nil (set : CharSet) (seen : List Char) (captures : List Capture) :
    greedily (char set).attempt next ⟨seen, [], captures⟩ = next ⟨seen, [], captures⟩ := by
  rw [greedily]
  rfl

theorem greedily_char_cons (set : CharSet) (seen : List Char) (c : Char) (rest : List Char)
    (captures : List Capture) :
    greedily (char set).attempt next ⟨seen, c :: rest, captures⟩ =
      if set.holds c then
        (greedily (char set).attempt next ⟨c :: seen, rest, captures⟩).or
          (next ⟨seen, c :: rest, captures⟩)
      else next ⟨seen, c :: rest, captures⟩ := by
  rw [greedily, attempt_char]
  split <;> simp

theorem lazily_char_nil (set : CharSet) (seen : List Char) (captures : List Capture) :
    lazily (char set).attempt next ⟨seen, [], captures⟩ = next ⟨seen, [], captures⟩ := by
  rw [lazily]
  exact Option.or_none

theorem lazily_char_cons (set : CharSet) (seen : List Char) (c : Char) (rest : List Char)
    (captures : List Capture) :
    lazily (char set).attempt next ⟨seen, c :: rest, captures⟩ =
      (next ⟨seen, c :: rest, captures⟩).or
        (if set.holds c then lazily (char set).attempt next ⟨c :: seen, rest, captures⟩
        else none) := by
  rw [lazily, attempt_char]
  simp

theorem greedily_char_stop (set : CharSet) {rest : List Char}
    (stop : rest.head?.any set.holds = false) (seen : List Char) (captures : List Capture) :
    greedily (char set).attempt next ⟨seen, rest, captures⟩ = next ⟨seen, rest, captures⟩ := by
  cases rest with
  | nil => exact greedily_char_nil set seen captures
  | cons c rest =>
    have outside : set.holds c = false := by simpa using stop
    simp [greedily_char_cons, outside]

/-- Where no shorter repetition lets the rest go on, only the longest one counts. `holdsBefore` is
what is known of the character before each place of the run. -/
theorem greedily_run_of_stuck (set : CharSet) (holdsBefore : Option Char → Prop)
    (inside : ∀ c, set.holds c = true → holdsBefore (some c))
    (stuck : ∀ seen c rest captures, holdsBefore seen.head? → set.holds c = true →
      next ⟨seen, c :: rest, captures⟩ = none)
    {seen run after : List Char} {captures : List Capture}
    (members : ∀ c ∈ run, set.holds c = true) (stop : after.head?.any set.holds = false)
    (start : holdsBefore seen.head?) :
    greedily (char set).attempt next ⟨seen, run ++ after, captures⟩ =
      next ⟨run.reverse ++ seen, after, captures⟩ := by
  induction run generalizing seen with
  | nil => exact greedily_char_stop set stop seen captures
  | cons c run ih =>
    -- The place before this character is stuck, since the character after it is in the run.
    obtain ⟨member, members⟩ := List.forall_mem_cons.mp members
    have further : holdsBefore (c :: seen).head? := inside c member
    rw [List.cons_append, greedily_char_cons, if_pos member, ih members further,
      stuck seen c (run ++ after) captures start member]
    simp

/-- Where the rest can go on after the longest repetition, that one counts. -/
theorem greedily_run_of_some (set : CharSet) {finish : Cursor → α} {seen run after : List Char}
    {captures : List Capture} (members : ∀ c ∈ run, set.holds c = true)
    (stop : after.head?.any set.holds = false) :
    greedily (char set).attempt (fun stop => some (finish stop)) ⟨seen, run ++ after, captures⟩ =
      some (finish ⟨run.reverse ++ seen, after, captures⟩) := by
  induction run generalizing seen with
  | nil => exact greedily_char_stop set stop seen captures
  | cons c run ih =>
    obtain ⟨member, members⟩ := List.forall_mem_cons.mp members
    rw [List.cons_append, greedily_char_cons, if_pos member, ih members]
    simp

theorem attempt_ofCharacters (characters : List Char) (cursor : Cursor) :
    (ofSequence (characters.map only)).attempt cursor next =
      if characters <+: cursor.rest then next (cursor.forward characters.length) else none := by
  obtain ⟨seen, rest, captures⟩ := cursor
  induction characters generalizing seen rest with
  | nil => simp [ofSequence, attempt]
  | cons wanted characters ih =>
    cases rest with
    | nil => simp [ofSequence, only, attempt]
    | cons c rest =>
      simp only [ofSequence, List.map_cons, List.foldr_cons, only, attempt, CharSet.holds] at ih ⊢
      by_cases same : c = wanted
      · subst same
        simp [ih, Cursor.forward]
      · have differ : ¬ wanted = c := fun equal => same equal.symm
        simp [same, differ]

theorem attempt_ofWord (word : String) (cursor : Cursor) :
    (ofWord word).attempt cursor next =
      if word.toList <+: cursor.rest then next (cursor.forward word.toList.length) else none :=
  attempt_ofCharacters word.toList cursor

theorem attempt_ofChoices (first : Pattern) (others : List Pattern) (cursor : Cursor) :
    (ofChoices first others).attempt cursor next =
      (first :: others).findSome? fun pattern => pattern.attempt cursor next := by
  induction others generalizing first with
  | nil => cases found : first.attempt cursor next <;> simp [ofChoices, found]
  | cons second others ih =>
    rw [ofChoices, attempt, ih second]
    simp only [List.findSome?_cons]
    cases first.attempt cursor next <;> rfl

theorem attempt_anyWord (first : String) (others : List String) (cursor : Cursor) :
    (anyWord (first :: others)).attempt cursor next =
      (first :: others).findSome? fun word =>
        if word.toList <+: cursor.rest then next (cursor.forward word.toList.length)
        else none := by
  rw [anyWord, attempt, attempt_ofChoices, ← List.map_cons (f := ofWord), List.findSome?_map]
  congr 1
  funext word
  exact attempt_ofWord word cursor

section Words

-- Where the rest must begin with a word character, a boundary asks only what comes before it.
theorem attempt_wordBoundary_before {cursor : Cursor}
    (needsWord : cursor.rest.head?.any isWordChar = false → next cursor = none) :
    wordBoundary.attempt cursor next = if opensWord cursor.before then next cursor else none := by
  rw [attempt, Cursor.isWordBoundary, opensWord]
  cases follows : cursor.rest.head?.any isWordChar with
  | false => simp [needsWord follows]
  | true => cases cursor.before.any isWordChar <;> simp

-- Behind a word character, a boundary asks only what follows.
theorem attempt_wordBoundary_after {seen rest : List Char} {captures : List Capture}
    (inWord : seen.head?.any isWordChar = true) :
    wordBoundary.attempt ⟨seen, rest, captures⟩ next =
      if closesWord rest then next ⟨seen, rest, captures⟩ else none := by
  rw [attempt, Cursor.isWordBoundary, Cursor.before, closesWord, inWord]
  cases rest.head?.any isWordChar <;> simp

def endingWord (finish : Cursor → α) : Cursor → Option α :=
  fun stop => wordBoundary.attempt stop fun stop => some (finish stop)

theorem attempt_wordBoundary_none {cursor : Cursor} (fails : next cursor = none) :
    wordBoundary.attempt cursor next = none := by
  rw [attempt, fails, ite_self]

theorem head?_append_isWordChar {seen text : List Char}
    (inWord : seen.head?.any isWordChar = true) (inside : ∀ c ∈ text, isWordChar c = true) :
    (text.reverse ++ seen).head?.any isWordChar = true := by
  rcases text.eq_nil_or_concat with rfl | ⟨start, last, rfl⟩
  · exact inWord
  · simpa using inside last (by simp)

theorem head?_reverse_isWordChar {seen text : List Char} (filled : text ≠ [])
    (inside : ∀ c ∈ text, isWordChar c = true) :
    (text.reverse ++ seen).head?.any isWordChar = true := by
  obtain ⟨start, last, rfl⟩ := text.eq_nil_or_concat.resolve_left filled
  simpa using inside last (by simp)

/-- Between two characters of a word there is no word boundary, so a run inside a word goes on to
its end, and the word must end there too. -/
theorem greedily_run_endingWord (set : CharSet)
    (inside : ∀ c, set.holds c = true → isWordChar c = true)
    {seen run after : List Char} {captures : List Capture}
    (members : ∀ c ∈ run, set.holds c = true) (stop : after.head?.any set.holds = false)
    (inWord : seen.head?.any isWordChar = true) (finish : Cursor → α) :
    greedily (char set).attempt (endingWord finish) ⟨seen, run ++ after, captures⟩ =
      if closesWord after then some (finish ⟨run.reverse ++ seen, after, captures⟩) else none := by
  rw [greedily_run_of_stuck set (fun before => before.any isWordChar = true)
    (fun c member => by simpa using inside c member) _ members stop inWord]
  · exact attempt_wordBoundary_after
      (head?_append_isWordChar inWord fun c member => inside c (members c member))
  · intro seen c rest captures inWord member
    have within : closesWord (c :: rest) = false := by simp [closesWord, inside c member]
    rw [endingWord, attempt_wordBoundary_after inWord, within]
    rfl

end Words

end Pattern

end LexReport.Scan
