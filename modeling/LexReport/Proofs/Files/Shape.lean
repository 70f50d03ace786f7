import LexReport.Proofs.Files.Tree
import LexReport.Proofs.Files.Work

/-! Work on two trees of one shape, which differ in what their files hold: paths lead to the same
places in both, and what can be written in one can be written in the other. -/

set_option autoImplicit false

namespace LexReport.Files

inductive Node.Alike : Option Node → Option Node → Prop where
  | none : Alike none none
  | directory : Alike (some directory) (some directory)
  | link (place : Location) : Alike (some (link place)) (some (link place))
  | file (content other : ByteArray) : Alike (some (file content)) (some (file other))
  | device (source other : ByteArray) (taken others : List ByteArray) :
      Alike (some (device source taken)) (some (device other others))

theorem Node.Alike.refl (node : Option Node) : Alike node node := by
  rcases node with - | - | content | ⟨source, taken⟩ | place
  · exact .none
  · exact .directory
  · exact .file content content
  · exact .device source source taken taken
  · exact .link place

theorem Node.Alike.rewritten {node another : Option Node} (alike : Alike node another)
    (content other : ByteArray) :
    Alike (some (.rewritten content node)) (some (.rewritten other another)) := by
  cases alike with
  | device source another taken others => exact .device _ _ _ _
  | _ => exact .file content other

namespace Tree

variable {tree first second : Tree} {location place : Location} {path text : String}

/-- Two trees that differ at most in what their files and devices hold. -/
structure SameShape (first second : Tree) : Prop where
  home : first.home = second.home
  refused : first.refused = second.refused
  alike : ∀ location, Node.Alike (first.node? location) (second.node? location)

section Shape

theorem SameShape.refl (tree : Tree) : SameShape tree tree := ⟨rfl, rfl, fun _ => .refl _⟩

theorem SameShape.put (same : SameShape first second) (filled : place ≠ []) {node other : Node}
    (alike : Node.Alike (some node) (some other)) :
    SameShape (first.put place node) (second.put place other) := by
  refine ⟨same.home, same.refused, fun location => ?_⟩
  by_cases here : location = place
  · rw [here, node?_put_self filled, node?_put_self filled]
    exact alike
  · rw [node?_put_of_ne here, node?_put_of_ne here]
    exact same.alike location

theorem sameShape_put {content : ByteArray} (isFile : tree.node? place = some (.file content))
    (other : ByteArray) : SameShape tree (tree.put place (.file other)) := by
  have filled := ne_root_of_file isFile
  refine ⟨rfl, rfl, fun location => ?_⟩
  by_cases here : location = place
  · rw [here, isFile, node?_put_self filled]
    exact .file content other
  · rw [node?_put_of_ne here]
    exact .refl _

end Shape

section Paths

variable (same : SameShape first second)
include same

theorem SameShape.follow (location : Location) :
    first.follow location = second.follow location := by
  unfold Tree.follow
  have here := same.alike location
  generalize first.node? location = node, second.node? location = other at here
  cases here with
  | link place =>
    have there := same.alike place
    dsimp only
    generalize first.node? place = node, second.node? place = other at there
    cases there <;> rfl
  | _ => rfl

theorem SameShape.enter (directory : Location) (name : String) :
    first.enter directory name = second.enter directory name := by
  rw [Tree.enter, Tree.enter, same.refused, same.follow]

theorem SameShape.walk (location : Location) (pieces : List String) :
    first.walk location pieces = second.walk location pieces := by
  induction pieces generalizing location with
  | nil => rfl
  | cons piece rest ih =>
    have here := same.alike location
    rw [Tree.walk, Tree.walk]
    generalize first.node? location = node, second.node? location = other at here
    cases here with
    | directory => simp only [ih, same.enter]
    | _ => rfl

theorem SameShape.startOf (path : String) : first.startOf path = second.startOf path := by
  rw [Tree.startOf, Tree.startOf, same.home]

theorem SameShape.resolve (path : String) : first.resolve path = second.resolve path := by
  rw [Tree.resolve, Tree.resolve, same.startOf]
  simp only [same.walk]

theorem SameShape.aim (location : Location) : first.aim location = second.aim location := by
  unfold Tree.aim
  have here := same.alike location
  generalize first.node? location = node, second.node? location = other at here
  cases here with
  | link place =>
    have there := same.alike place
    have before := same.alike place.dropLast
    dsimp only
    generalize first.node? place = node, second.node? place = other at there
    generalize first.node? place.dropLast = parent, second.node? place.dropLast = another at before
    cases there <;> cases before <;> rfl
  | _ => rfl

theorem SameShape.placeIn (pieces : List String) (directory : Location) :
    first.placeIn pieces directory = second.placeIn pieces directory := by
  have here := same.alike directory
  rw [Tree.placeIn, Tree.placeIn, same.refused]
  simp only [same.aim]
  generalize first.node? directory = node, second.node? directory = other at here
  cases here <;> cases (dropTrailing pieces).getLast? <;> rfl

theorem SameShape.target_eq (path : String) : first.target path = second.target path := by
  rw [Tree.target, Tree.target, same.startOf]
  simp only [same.walk, same.placeIn]

variable (text other : String)

theorem SameShape.writeAt (noLink : ∀ next, second.node? place ≠ some (.link next)) :
    (∃ failure, first.writeAt place text = .error failure ∧
        second.writeAt place other = .error failure) ∨
      ∃ after later, first.writeAt place text = .ok after ∧
        second.writeAt place other = .ok later ∧ SameShape after later := by
  unfold Tree.writeAt
  rw [same.refused]
  have here := same.alike place
  have root (atRoot : place = []) : second.node? place = some .directory := by
    rw [atRoot]
    rfl
  generalize first.node? place = node, second.node? place = another at here root noLink
  have written := here.rewritten text.toUTF8 other.toUTF8
  cases here with
  | directory => exact .inl ⟨_, rfl, rfl⟩
  | link next => exact absurd rfl (noLink next)
  | none | file | device =>
    have filled : place ≠ [] := fun atRoot => nomatch root atRoot
    cases second.refused .write place with
    | some failure => exact .inl ⟨failure, rfl, rfl⟩
    | none => exact .inr ⟨_, _, rfl, rfl, same.put filled written⟩

theorem SameShape.writeText (path : String) :
    (∃ failure, first.writeText path text = .error failure ∧
        second.writeText path other = .error failure) ∨
      ∃ after later, first.writeText path text = .ok after ∧
        second.writeText path other = .ok later ∧ SameShape after later := by
  rw [Tree.writeText, Tree.writeText, same.target_eq]
  cases aimed : second.target path with
  | error failure => exact .inl ⟨failure, rfl, rfl⟩
  | ok place => exact same.writeAt text other (not_link_of_target aimed)

end Paths

end Tree

section Works

variable {ε α β α' β' : Type}

/-- Two results that are the same error, or are related. -/
inductive SameEnd (related : α → α' → Prop) : Except ε α → Except ε α' → Prop where
  | failed (error : ε) : SameEnd related (.error error) (.error error)
  | done {value : α} {other : α'} (same : related value other) :
      SameEnd related (.ok value) (.ok other)

structure Alike (related : α → α' → Prop) (left : Except ε α × Tree)
    (right : Except ε α' × Tree) : Prop where
  ends : SameEnd related left.1 right.1
  shape : left.2.SameShape right.2

namespace Work

variable {first second : Tree}

theorem announce_alike (shape : first.SameShape second) (event other : Notice.Event) :
    Alike Eq (announce (ε := ε) event first).left (announce other second).left :=
  ⟨.done rfl, shape⟩

theorem look_alike (shape : first.SameShape second) {related : α → α' → Prop}
    {stage : Tree → Notice.Stage ε α} {other : Tree → Notice.Stage ε α'}
    (ends : SameEnd related (stage first).result (other second).result) :
    Alike related (look stage first).left (look other second).left :=
  ⟨ends, shape⟩

theorem ofStage_alike (shape : first.SameShape second) (stage : Notice.Stage ε α) :
    Alike Eq (ofStage stage first).left (ofStage stage second).left := by
  refine look_alike shape ?_
  cases stage.result with
  | error error => exact .failed error
  | ok value => exact .done rfl

theorem attempt_alike {δ : Type} {work other : Work ε α}
    (alike : Alike Eq (work first).left (other second).left) :
    Alike Eq (work.attempt (δ := δ) first).left (other.attempt (δ := δ) second).left := by
  rw [attempt_left, attempt_left]
  obtain ⟨ends, shape⟩ := alike
  refine ⟨.done ?_, shape⟩
  generalize (work first).left.1 = result at ends
  generalize (other second).left.1 = another at ends
  cases ends with
  | failed error => rfl
  | done same => rw [same]

section Two

variable {related : α → α' → Prop} {work : Work ε α} {other : Work ε α'}
  (alike : Alike related (work first).left (other second).left)
include alike

theorem mapError_alike {δ : Type} (f : ε → δ) :
    Alike related (work.mapError f first).left (other.mapError f second).left := by
  rw [mapError_left, mapError_left]
  obtain ⟨ends, shape⟩ := alike
  refine ⟨?_, shape⟩
  generalize (work first).left.1 = result at ends
  generalize (other second).left.1 = another at ends
  cases ends with
  | failed error => exact .failed (f error)
  | done same => exact .done same

theorem bind_alike {wanted : β → β' → Prop} {next : α → Work ε β} {following : α' → Work ε β'}
    (goesOn : ∀ value another, related value another → ∀ first second : Tree,
      first.SameShape second →
        Alike wanted (next value first).left (following another second).left) :
    Alike wanted ((work >>= next) first).left ((other >>= following) second).left := by
  rw [bind_left, bind_left]
  obtain ⟨ends, shape⟩ := alike
  generalize (work first).left = left at ends shape
  generalize (other second).left = right at ends shape
  obtain ⟨result, after⟩ := left
  obtain ⟨another, later⟩ := right
  cases ends with
  | failed error => exact ⟨.failed error, shape⟩
  | done same => exact goesOn _ _ same _ _ shape

end Two

end Work

end Works

end LexReport.Files
