import LexReport.Files.Tree
import Mathlib.Data.List.Basic

/-! What writing a file does to a tree: the file is there, what else is there stays, and paths lead
where they led. -/

set_option autoImplicit false

namespace LexReport.Files.Tree

variable {tree first second after : Tree} {location place last : Location} {path text : String}

section Put

variable {node : Node}

theorem node?_put_self (filled : place ≠ []) : (tree.put place node).node? place = some node := by
  simp [node?, put, filled]

theorem lookup_filter_ne (nodes : List (Location × Node)) (different : location ≠ place) :
    (nodes.filter fun entry => entry.1 != place).lookup location = nodes.lookup location := by
  induction nodes with
  | nil => rfl
  | cons entry rest ih =>
    rw [List.filter_cons, List.lookup_cons]
    by_cases same : entry.1 = place
    · have other : (location == entry.1) = false := by
        rw [same]
        exact beq_false_of_ne different
      rw [if_neg (by simp [same]), ih, other]
    · rw [if_pos (by simp [same]), List.lookup_cons, ih]

theorem node?_put_of_ne (different : location ≠ place) :
    (tree.put place node).node? location = tree.node? location := by
  have other : (location == place) = false := beq_false_of_ne different
  rw [node?, put, List.lookup_cons, other, lookup_filter_ne tree.nodes different]
  rfl

end Put

section Directories

/-- Two trees with the same directories and links, in which the same is refused. -/
structure SameDirectories (first second : Tree) : Prop where
  home : first.home = second.home
  refused : first.refused = second.refused
  directories : ∀ location,
    first.node? location = some .directory ↔ second.node? location = some .directory
  links : ∀ location place,
    first.node? location = some (.link place) ↔ second.node? location = some (.link place)

theorem SameDirectories.refl (tree : Tree) : SameDirectories tree tree :=
  ⟨rfl, rfl, fun _ => Iff.rfl, fun _ _ => Iff.rfl⟩

theorem SameDirectories.symm (same : SameDirectories first second) :
    SameDirectories second first :=
  ⟨same.home.symm, same.refused.symm, fun location => (same.directories location).symm,
    fun location place => (same.links location place).symm⟩

theorem SameDirectories.trans {third : Tree} (same : SameDirectories first second)
    (further : SameDirectories second third) : SameDirectories first third :=
  ⟨same.home.trans further.home, same.refused.trans further.refused,
    fun location => (same.directories location).trans (further.directories location),
    fun location place => (same.links location place).trans (further.links location place)⟩

/-- What keeps what is written into it: neither a directory nor a link. -/
def IsOpen (tree : Tree) (place : Location) : Prop :=
  tree.node? place ≠ some .directory ∧ ∀ next, tree.node? place ≠ some (.link next)

theorem IsOpen.ne_root (isOpen : tree.IsOpen place) : place ≠ [] := by
  rintro rfl
  exact isOpen.1 rfl

theorem ne_root_of_file {content : ByteArray} (isFile : tree.node? place = some (.file content)) :
    place ≠ [] := by
  rintro rfl
  cases isFile

theorem rewritten_ne_directory (content : ByteArray) (node : Option Node) :
    Node.rewritten content node ≠ .directory := by
  unfold Node.rewritten
  split <;> simp

theorem rewritten_ne_link (content : ByteArray) (node : Option Node) (next : Location) :
    Node.rewritten content node ≠ .link next := by
  unfold Node.rewritten
  split <;> simp

theorem sameDirectories_put (isOpen : tree.IsOpen place) (content : ByteArray)
    (node : Option Node) : SameDirectories tree (tree.put place (.rewritten content node)) := by
  have there := @node?_put_self tree place (.rewritten content node) isOpen.ne_root
  refine ⟨rfl, rfl, fun location => ?_, fun location next => ?_⟩ <;>
    by_cases same : location = place
  · rw [same, there, Option.some.injEq]
    exact iff_of_false isOpen.1 (rewritten_ne_directory content node)
  · rw [node?_put_of_ne same]
  · rw [same, there, Option.some.injEq]
    exact iff_of_false (isOpen.2 next) (rewritten_ne_link content node next)
  · rw [node?_put_of_ne same]

theorem walk_cons (here : tree.node? location = some .directory) (piece : String)
    (rest : List String) :
    tree.walk location (piece :: rest) =
      if piece = "" then tree.walk location rest
      else (tree.enter location piece).bind fun next => tree.walk next rest := by
  rw [walk, here]
  dsimp only
  cases tree.enter location piece <;> rfl

theorem directory_of_walk_cons {piece : String} {rest : List String}
    (walked : tree.walk location (piece :: rest) = .ok last) :
    tree.node? location = some .directory := by
  rw [walk] at walked
  split at walked
  · contradiction
  · assumption
  · contradiction

theorem directory_of_walk {pieces : List String} (walked : tree.walk location pieces = .ok last)
    (arrived : tree.node? last = some .directory) : tree.node? location = some .directory := by
  cases pieces with
  | nil =>
    obtain rfl := Except.ok.inj walked
    exact arrived
  | cons piece rest => exact directory_of_walk_cons walked

theorem SameDirectories.follow (same : SameDirectories first second)
    (followed : first.follow location = .ok place)
    (arrived : first.node? place = some .directory) : second.follow location = .ok place := by
  unfold Tree.follow at followed ⊢
  cases here : first.node? location with
  | none =>
    rw [here] at followed
    contradiction
  | some node =>
    rw [here] at followed
    cases node with
    | link next =>
      rw [(same.links _ _).mp here]
      dsimp only at followed ⊢
      split at followed
      · contradiction
      · obtain rfl := Except.ok.inj followed
        rw [(same.directories _).mp arrived]
      · contradiction
    | directory | file | device =>
      obtain rfl := Except.ok.inj followed
      rw [(same.directories _).mp arrived]

theorem SameDirectories.enter (same : SameDirectories first second) {name : String}
    (entered : first.enter location name = .ok place)
    (arrived : first.node? place = some .directory) : second.enter location name = .ok place := by
  unfold Tree.enter at entered ⊢
  rw [← same.refused]
  split at entered
  · contradiction
  · split at entered
    · rename_i here
      rw [if_pos here, entered]
    · rename_i notHere
      rw [if_neg notHere]
      split at entered
      · rename_i parent
        rw [if_pos parent, entered]
      · rename_i notParent
        rw [if_neg notParent]
        split at entered
        · contradiction
        · rename_i short
          rw [if_neg short, same.follow entered arrived]

theorem bind_eq_ok_iff {ε α β : Type} {result : Except ε α} {next : α → Except ε β} {value : β} :
    result.bind next = .ok value ↔ ∃ found, result = .ok found ∧ next found = .ok value := by
  cases result with
  | error error => exact iff_of_false (by simp [Except.bind]) (by simp)
  | ok found => exact ⟨fun ended => ⟨found, rfl, ended⟩, fun ⟨_, rfl, ended⟩ => ended⟩

/-- The way to a directory passes only directories and links, so it is the same in a tree that has
the same ones. -/
theorem SameDirectories.walk (same : SameDirectories first second) {pieces : List String}
    (walked : first.walk location pieces = .ok last)
    (arrived : first.node? last = some .directory) :
    second.walk location pieces = .ok last := by
  induction pieces generalizing location with
  | nil => exact walked
  | cons piece rest ih =>
    have here := directory_of_walk_cons walked
    rw [walk_cons here] at walked
    rw [walk_cons ((same.directories _).mp here)]
    split at walked
    · rename_i stays
      rw [if_pos stays, ih walked]
    · rename_i moves
      obtain ⟨next, entered, walked⟩ := bind_eq_ok_iff.mp walked
      rw [if_neg moves, same.enter entered (directory_of_walk walked arrived)]
      exact ih walked

theorem walk_append (location : Location) (pieces more : List String) :
    tree.walk location (pieces ++ more) =
      (tree.walk location pieces).bind fun location => tree.walk location more := by
  induction pieces generalizing location with
  | nil => rfl
  | cons piece rest ih =>
    rw [List.cons_append, walk, walk]
    split
    · rfl
    · split
      · exact ih location
      · cases tree.enter location piece with
        | error failure => rfl
        | ok next => exact ih next
    · rfl

end Directories

section Target

theorem not_link_of_aim (aimed : tree.aim location = .ok place) (next : Location) :
    tree.node? place ≠ some (.link next) := by
  unfold aim at aimed
  split at aimed
  · split at aimed
    · contradiction
    · rename_i noLink
      obtain rfl := Except.ok.inj aimed
      exact noLink next
    · contradiction
  · rename_i noLink
    obtain rfl := Except.ok.inj aimed
    exact noLink next

theorem SameDirectories.aim (same : SameDirectories first second)
    (aimed : first.aim location = .ok place) : second.aim location = .ok place := by
  have noLink := not_link_of_aim aimed
  unfold Tree.aim at aimed ⊢
  split at aimed
  · rename_i next here
    rw [(same.links _ _).mp here]
    split at aimed
    · contradiction
    · rename_i parent _
      obtain rfl := Except.ok.inj aimed
      dsimp only
      rw [(same.directories _).mp parent]
      cases found : second.node? next with
      | none => rfl
      | some node =>
        cases node with
        | link other => exact absurd ((same.links _ _).mpr found) (noLink other)
        | directory | file | device => rfl
    · contradiction
  · obtain rfl := Except.ok.inj aimed
    split
    · rename_i next found
      exact absurd ((same.links _ _).mpr found) (noLink next)
    · rfl

structure IsName (piece : String) : Prop where
  filled : piece ≠ ""
  notHere : piece ≠ "."
  notParent : piece ≠ ".."
  short : piece.utf8ByteSize ≤ maxNameSize

/-- A path whose last piece names something in the directory that the pieces before lead to. -/
structure Names (tree : Tree) (path : String) (directory : Location) (name : String) : Prop where
  usable : pathFailure? path = none
  proper : IsName name
  leads : ∃ front, Path.pieces path = front ++ [name] ∧
    tree.walk (tree.startOf path) front = .ok directory
  isDirectory : tree.node? directory = some .directory
  granted : tree.refused .find (directory ++ [name]) = none

theorem dropTrailing_concat {pieces : List String} {name : String} (filled : name ≠ "") :
    dropTrailing (pieces ++ [name]) = pieces ++ [name] := by
  simp [dropTrailing, filled]

theorem filled_of_dropTrailing {pieces : List String} {name : String}
    (same : dropTrailing (pieces ++ [name]) = pieces ++ [name]) : name ≠ "" := by
  rintro rfl
  have shorter : (dropTrailing (pieces ++ [""])).length ≤ pieces.length := by
    simpa [dropTrailing] using
      (List.dropWhile_sublist (fun piece : String => piece == "") (l := pieces.reverse)).length_le
  rw [same, List.length_append, List.length_singleton] at shorter
  omega

theorem placeIn_eq_ok_iff {pieces : List String} {directory : Location} :
    tree.placeIn pieces directory = .ok place ↔
      ∃ front name, pieces = front ++ [name] ∧ IsName name ∧
        tree.node? directory = some .directory ∧ tree.refused .find (directory ++ [name]) = none ∧
        tree.aim (directory ++ [name]) = .ok place := by
  constructor
  · intro ok
    unfold placeIn at ok
    split at ok
    · contradiction
    · contradiction
    · rename_i name isDirectory named
      split at ok
      · contradiction
      · rename_i proper
        split at ok
        · contradiction
        · rename_i granted
          split at ok
          · contradiction
          · rename_i short
            obtain ⟨whole, notHere, notParent⟩ :
                dropTrailing pieces = pieces ∧ name ≠ "." ∧ name ≠ ".." := by
              simpa using proper
            -- Nothing was dropped behind the name, so it is the last piece itself.
            rw [whole] at named
            have cut : pieces = pieces.dropLast ++ [name] :=
              (List.dropLast_append_getLast? name named).symm
            rw [cut] at whole
            exact ⟨_, name, cut, ⟨filled_of_dropTrailing whole, notHere, notParent,
              Nat.le_of_not_lt short⟩, isDirectory, granted, ok⟩
    · contradiction
  · rintro ⟨front, name, rfl, ⟨filled, notHere, notParent, short⟩, isDirectory, granted, aimed⟩
    rw [placeIn, dropTrailing_concat filled, List.getLast?_concat, isDirectory]
    dsimp only
    rw [if_neg (by simp [notHere, notParent]), granted]
    dsimp only
    rw [if_neg (Nat.not_lt.mpr short), aimed]

theorem target_eq_ok_iff :
    tree.target path = .ok place ↔
      ∃ directory name, Names tree path directory name ∧
        tree.aim (directory ++ [name]) = .ok place := by
  unfold target
  constructor
  · intro ok
    split at ok
    · contradiction
    · rename_i usable
      dsimp only at ok
      cases walked : tree.walk (tree.startOf path) (dropTrailing (Path.pieces path)).dropLast with
      | error failure =>
        rw [walked] at ok
        contradiction
      | ok directory =>
        rw [walked] at ok
        obtain ⟨front, name, cut, proper, isDirectory, granted, aimed⟩ := placeIn_eq_ok_iff.mp ok
        rw [cut, dropTrailing_concat proper.filled, List.dropLast_concat] at walked
        exact ⟨directory, name, ⟨usable, proper, ⟨front, cut, walked⟩, isDirectory, granted⟩, aimed⟩
  · rintro ⟨directory, name, ⟨usable, proper, ⟨front, cut, walked⟩, isDirectory, granted⟩, aimed⟩
    have led : tree.walk (tree.startOf path) (dropTrailing (Path.pieces path)).dropLast =
        .ok directory := by
      rw [cut, dropTrailing_concat proper.filled, List.dropLast_concat, walked]
    rw [usable]
    dsimp only
    rw [led]
    exact placeIn_eq_ok_iff.mpr ⟨front, name, cut, proper, isDirectory, granted, aimed⟩

theorem SameDirectories.target (same : SameDirectories first second)
    (ok : first.target path = .ok place) : second.target path = .ok place := by
  obtain ⟨directory, name, ⟨usable, proper, ⟨front, cut, walked⟩, isDirectory, granted⟩, aimed⟩ :=
    target_eq_ok_iff.mp ok
  have start : first.startOf path = second.startOf path := by
    rw [startOf, startOf, same.home]
  have led := same.walk walked isDirectory
  rw [start] at led
  rw [same.refused] at granted
  exact target_eq_ok_iff.mpr ⟨directory, name,
    ⟨usable, proper, ⟨front, cut, led⟩, (same.directories _).mp isDirectory, granted⟩,
    same.aim aimed⟩

theorem not_link_of_target (aimed : tree.target path = .ok place) (next : Location) :
    tree.node? place ≠ some (.link next) := by
  obtain ⟨directory, name, -, aimed⟩ := target_eq_ok_iff.mp aimed
  exact not_link_of_aim aimed next

theorem follow_of_aim (aimed : tree.aim location = .ok place)
    (there : (tree.node? place).isSome) : tree.follow location = .ok place := by
  have noLink := not_link_of_aim aimed
  obtain ⟨node, found⟩ := Option.isSome_iff_exists.mp there
  unfold aim at aimed
  unfold follow
  split at aimed
  · rename_i here
    rw [here]
    split at aimed
    · contradiction
    · obtain rfl := Except.ok.inj aimed
      dsimp only
      rw [found]
      cases node with
      | link next => exact absurd found (noLink next)
      | _ => rfl
    · contradiction
  · obtain rfl := Except.ok.inj aimed
    rw [found]
    cases node with
    | link next => exact absurd found (noLink next)
    | _ => rfl

/-- Where a file can be written, there it is found. -/
theorem resolve_of_target (ok : tree.target path = .ok place)
    (there : (tree.node? place).isSome) : tree.resolve path = .ok place := by
  obtain ⟨directory, name, ⟨usable, proper, ⟨front, cut, walked⟩, isDirectory, granted⟩, aimed⟩ :=
    target_eq_ok_iff.mp ok
  obtain ⟨filled, notHere, notParent, short⟩ := proper
  have entered : tree.enter directory name = .ok place := by
    rw [enter, granted]
    dsimp only
    rw [if_neg notHere, if_neg notParent, if_neg (Nat.not_lt.mpr short), follow_of_aim aimed there]
  rw [resolve, usable]
  dsimp only
  rw [cut, walk_append, walked]
  show tree.walk directory [name] = _
  rw [walk_cons isDirectory, if_neg filled, entered]
  rfl

end Target

section Write

def Accepts (tree : Tree) (path : String) : Prop :=
  ∃ place, tree.target path = .ok place ∧ tree.node? place ≠ some .directory ∧
    tree.refused .write place = none

theorem writeAt_eq_ok_iff :
    tree.writeAt place text = .ok after ↔
      tree.node? place ≠ some .directory ∧ tree.refused .write place = none ∧
        after = tree.put place (.rewritten text.toUTF8 (tree.node? place)) := by
  unfold writeAt
  split
  · rename_i isDirectory
    exact iff_of_false (by simp) fun free => free.1 isDirectory
  · rename_i refused _
    rw [refused]
    exact iff_of_false (by simp) (by simp)
  · rename_i granted free
    rw [Except.ok.injEq, eq_comm]
    exact (and_iff_right fun isDirectory => free isDirectory).trans (and_iff_right granted) |>.symm

theorem writeText_eq_ok_iff :
    tree.writeText path text = .ok after ↔
      ∃ place, tree.target path = .ok place ∧ tree.node? place ≠ some .directory ∧
        tree.refused .write place = none ∧
        after = tree.put place (.rewritten text.toUTF8 (tree.node? place)) := by
  unfold writeText
  cases aimed : tree.target path with
  | error failure =>
    constructor
    · intro written
      contradiction
    · rintro ⟨place, found, -⟩
      contradiction
  | ok place =>
    simp only [Except.ok.injEq, exists_eq_left']
    exact writeAt_eq_ok_iff

theorem writeText_succeeds_iff (text : String) :
    (∃ after, tree.writeText path text = .ok after) ↔ tree.Accepts path := by
  simp only [writeText_eq_ok_iff]
  constructor
  · rintro ⟨after, place, aimed, free, granted, -⟩
    exact ⟨place, aimed, free, granted⟩
  · rintro ⟨place, aimed, free, granted⟩
    exact ⟨_, place, aimed, free, granted, rfl⟩

theorem sameDirectories_writeText (written : tree.writeText path text = .ok after) :
    SameDirectories tree after := by
  obtain ⟨place, aimed, free, -, rfl⟩ := writeText_eq_ok_iff.mp written
  exact sameDirectories_put ⟨free, not_link_of_target aimed⟩ _ _

theorem SameDirectories.accepts (same : SameDirectories first second)
    (accepts : first.Accepts path) : second.Accepts path := by
  obtain ⟨place, aimed, free, granted⟩ := accepts
  rw [same.refused] at granted
  exact ⟨place, same.target aimed, fun directory => free ((same.directories _).mpr directory),
    granted⟩

theorem node?_of_writeText (written : tree.writeText path text = .ok after)
    (aimed : tree.target path = .ok place) :
    after.node? place = some (.rewritten text.toUTF8 (tree.node? place)) := by
  obtain ⟨other, again, free, -, rfl⟩ := writeText_eq_ok_iff.mp written
  obtain rfl := Except.ok.inj (aimed.symm.trans again)
  exact node?_put_self (IsOpen.ne_root ⟨free, not_link_of_target aimed⟩)

theorem node?_writeText (written : tree.writeText path text = .ok after)
    (elsewhere : tree.target path ≠ .ok location) : after.node? location = tree.node? location := by
  obtain ⟨place, aimed, -, -, rfl⟩ := writeText_eq_ok_iff.mp written
  apply node?_put_of_ne
  rintro rfl
  exact elsewhere aimed

theorem isSome_node?_writeText (written : tree.writeText path text = .ok after)
    (there : (tree.node? location).isSome) : (after.node? location).isSome := by
  by_cases aimed : tree.target path = .ok location
  · rw [node?_of_writeText written aimed]
    rfl
  · rwa [node?_writeText written aimed]

end Write

section Read

/-- Nothing is refused of what is asked about a file before it is read. -/
structure IsKnown (tree : Tree) (location : Location) : Prop where
  canonicalized : tree.refused .canonicalize location = none
  inspected : tree.refused .inspect location = none

structure IsReadable (tree : Tree) (location : Location) : Prop extends IsKnown tree location where
  read : tree.refused .read location = none

theorem ne_empty_of_resolve (resolved : tree.resolve path = .ok location) : path ≠ "" := by
  rintro rfl
  rw [resolve] at resolved
  contradiction

theorem contentAt_of_file {content : ByteArray} (granted : tree.refused .read location = none)
    (held : tree.node? location = some (.file content)) :
    tree.contentAt location = .ok content := by
  rw [contentAt, granted, held]

theorem readText_of_resolved (resolved : tree.resolve path = .ok location) :
    tree.readText path = tree.textAt location := by
  rw [readText, resolved]
  rfl

theorem fromUTF8?_toUTF8 (text : String) : String.fromUTF8? text.toUTF8 = some text := by
  rw [String.fromUTF8?]
  split
  · rfl
  · rename_i invalid
    exact absurd text.isValidUTF8 invalid

theorem toUTF8_of_fromUTF8? {content : ByteArray} {text : String}
    (decoded : String.fromUTF8? content = some text) : text.toUTF8 = content := by
  rw [String.fromUTF8?] at decoded
  split at decoded
  · rw [← Option.some.inj decoded]
    rfl
  · contradiction

theorem textOf_toUTF8 (text : String) : textOf text.toUTF8 = .ok text := by
  rw [textOf, fromUTF8?_toUTF8]

theorem textAt_of_file (granted : tree.refused .read location = none)
    (held : tree.node? location = some (.file text.toUTF8)) :
    tree.textAt location = .ok text := by
  rw [textAt, contentAt_of_file granted held]
  exact textOf_toUTF8 text

end Read

end LexReport.Files.Tree
