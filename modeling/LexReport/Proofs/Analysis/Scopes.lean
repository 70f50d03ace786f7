import LexReport.Proofs.Analysis.Recorded
import LexReport.Proofs.Notice.Calls

/-! Which file an event is kept for while files are worked on one inside the other. One file is at
hand at a time, and when the work on it ends none is: an event is kept for the innermost file that
is worked on, but for none once the work on a file inside that one has ended. -/

set_option autoImplicit false

namespace LexReport

namespace Notice

open Files

section Definitions

/-- Work on files. Events are told, and a file may be worked on inside the work on another. -/
inductive Script where
  | done
  | tell (event : Event) (next : Script)
  | within (file : FileScope) (inner next : Script)

structure Told where
  event : Event
  /-- The innermost file that is worked on. -/
  file : Option FileScope
  /-- The work on another file has ended inside the work on that one. -/
  isBehind : Bool

def Told.holder (told : Told) : Option FileScope := if told.isBehind then none else told.file

def Told.offer? (limits : NoticeLimits) (preferences : NoticePreferences) (told : Told) :
    Option (String × Event) :=
  told.holder.bind fun file =>
    if told.event.isProblem then
      some (file.path, Journal.stamped limits preferences (some file) told.event)
    else none

namespace Script

def run (limits : NoticeLimits) : Script → Journal → Journal
  | done, journal => journal
  | tell event next, journal => next.run limits (journal.tell limits event)
  | within file inner next, journal =>
    next.run limits (journal.within file fun journal => ((), inner.run limits journal)).2

def told (file : Option FileScope) (isBehind : Bool) : Script → List Told
  | done => []
  | tell event next => ⟨event, file, isBehind⟩ :: next.told file isBehind
  | within inside inner next => inner.told (some inside) false ++ next.told file true

def offers (limits : NoticeLimits) (journal : Journal) (script : Script) :
    List (String × Event) :=
  (script.told journal.scope false).filterMap (Told.offer? limits journal.preferences)

def enters : Script → Bool
  | done => false
  | tell _ next => next.enters
  | within _ _ _ => true

def tells (events : List Event) : Script := events.foldr tell done

end Script

end Definitions

namespace Ledger

variable {limits : NoticeLimits} {files : List FileEvents} {path : String} {event : Event}
  {offered : List (String × Event)} {key : List Part}

def filesAfter (limits : NoticeLimits) (files : List FileEvents) (offer : String × Event) :
    List FileEvents :=
  if limits.maxCollected ≤ countAll List.length files then files
  else update offer.1 (keep limits offer.2) files

structure HasRoom (limits : NoticeLimits) (files : List FileEvents)
    (offered : List (String × Event)) : Prop where
  total : countAll List.length files + offered.length ≤ limits.maxCollected
  file : ∀ offer ∈ offered,
    (eventsAt (Path.parts offer.1) files).length +
      (offersAt (Path.parts offer.1) offered).length ≤ limits.maxPerFile

theorem files_record (ledger : Ledger) (path : String) (event : Event) :
    (ledger.record limits path event).files = filesAfter limits ledger.files (path, event) := by
  rw [record, filesAfter, total]
  split <;> rfl

theorem offersAt_cons (key : List Part) (path : String) (event : Event)
    (offered : List (String × Event)) :
    offersAt key ((path, event) :: offered) =
      if key = Path.parts path then event :: offersAt key offered else offersAt key offered := by
  by_cases same : key = Path.parts path <;> simp [offersAt, same]

theorem eventsAt_filesAfter (sorted : Sorted files)
    (room : HasRoom limits files ((path, event) :: offered)) (key : List Part) :
    eventsAt key (filesAfter limits files (path, event)) =
      if key = Path.parts path then eventsAt key files ++ [event] else eventsAt key files := by
  have total := room.total
  have here := room.file _ List.mem_cons_self
  rw [offersAt_cons, if_pos rfl, List.length_cons] at here
  rw [List.length_cons] at total
  rw [filesAfter, if_neg (by omega), eventsAt_update sorted]
  split
  · rename_i same
    rw [same, keep, if_pos (by dsimp only at here ⊢; omega)]
  · rfl

theorem HasRoom.next (sorted : Sorted files)
    (room : HasRoom limits files ((path, event) :: offered)) :
    HasRoom limits (filesAfter limits files (path, event)) offered := by
  have total := room.total
  rw [List.length_cons] at total
  constructor
  · have longer := total_update_le files (length_keep_le limits event) path
    rw [filesAfter, if_neg (by omega)]
    dsimp only
    omega
  · intro offer member
    have here := room.file offer (List.mem_cons_of_mem _ member)
    rw [offersAt_cons] at here
    rw [eventsAt_filesAfter sorted room]
    split
    · rename_i same
      rw [if_pos same, List.length_cons] at here
      rw [List.length_append, List.length_singleton]
      omega
    · rename_i other
      rwa [if_neg other] at here

/-- While there is room each file keeps all events that are offered for it. -/
theorem eventsAt_foldl (sorted : Sorted files) (room : HasRoom limits files offered)
    (key : List Part) :
    eventsAt key (offered.foldl (filesAfter limits) files) =
      eventsAt key files ++ offersAt key offered := by
  induction offered generalizing files with
  | nil => exact (List.append_nil _).symm
  | cons offer rest ih =>
    obtain ⟨path, event⟩ := offer
    have next : Sorted (filesAfter limits files (path, event)) := by
      rw [filesAfter]
      split
      · exact sorted
      · exact sorted.update _ _
    rw [List.foldl_cons, ih next (room.next sorted), eventsAt_filesAfter sorted room, offersAt_cons]
    split
    · rw [List.append_assoc, List.singleton_append]
    · rfl

end Ledger

section Runs

variable {limits : NoticeLimits} {journal : Journal} {file : Option FileScope} {isBehind : Bool}

theorem Context.lookup_put (context : Context) (name value : String) :
    (context.put name value).lookup name = some value := by
  induction context with
  | nil => simp [Context.put]
  | cons pair rest ih =>
    obtain ⟨other, kept⟩ := pair
    rw [Context.put]
    split
    · simp
    · rename_i differs
      split
      · simp
      · rw [List.lookup_cons, beq_eq_false_iff_ne.mpr differs]
        exact ih

theorem lookup_stamped {preferences : NoticePreferences} (named : preferences.nameFile = true)
    (file : FileScope) (event : Event) :
    (Journal.stamped limits preferences (some file) event).context.lookup "file" =
      some file.path := by
  rw [Journal.stamped]
  simp only [named, if_true]
  exact Context.lookup_put _ _ _

theorem files_tell (event : Event) (here : journal.scope = Told.holder ⟨event, file, isBehind⟩) :
    (journal.tell limits event).ledger.files =
      (Told.offer? limits journal.preferences ⟨event, file, isBehind⟩).toList.foldl
        (Ledger.filesAfter limits) journal.ledger.files := by
  obtain ⟨preferences, scope, ledger, outlet⟩ := journal
  obtain rfl : scope = _ := here
  rw [Told.offer?]
  cases holder : Told.holder ⟨event, file, isBehind⟩ with
  | none => rfl
  | some file =>
    rw [Journal.tell, Journal.collect, isProblem_stamped]
    dsimp only [Option.bind_some]
    split
    · exact Ledger.files_record _ _ _
    · rfl

namespace Script

/-- What a script leaves of the file at hand, and what it offers to the ledger. -/
theorem run_spec (script : Script) (journal : Journal) (file : Option FileScope) (isBehind : Bool)
    (here : journal.scope = if isBehind then none else file) :
    (script.run limits journal).preferences = journal.preferences ∧
    (script.run limits journal).scope = (if script.enters then none else journal.scope) ∧
    (script.run limits journal).ledger.files =
      ((script.told file isBehind).filterMap (Told.offer? limits journal.preferences)).foldl
        (Ledger.filesAfter limits) journal.ledger.files := by
  -- The file at hand is the holder of what is told next, also behind an inner script.
  induction script generalizing journal file isBehind with
  | done => exact ⟨rfl, rfl, rfl⟩
  | tell event next ih =>
    obtain ⟨preferences, scope, files⟩ := ih (journal.tell limits event) file isBehind here
    refine ⟨preferences, scope, files.trans ?_⟩
    rw [told, List.filterMap_cons, files_tell event here]
    cases Told.offer? limits journal.preferences ⟨event, file, isBehind⟩ <;> rfl
  | within inside inner next ihInner ihNext =>
    obtain ⟨innerPreferences, -, innerFiles⟩ :=
      ihInner (journal.enter inside) (some inside) false rfl
    obtain ⟨preferences, scope, files⟩ :=
      ihNext (inner.run limits (journal.enter inside)).leave file true rfl
    refine ⟨preferences.trans innerPreferences, ?_, files.trans ?_⟩
    · rw [enters, if_pos rfl]
      exact scope.trans (ite_self _)
    · have entered : (journal.enter inside).ledger.files = journal.ledger.files :=
        Ledger.files_visit _ _
      have left : (inner.run limits (journal.enter inside)).leave.preferences =
          journal.preferences := innerPreferences
      have kept : (inner.run limits (journal.enter inside)).leave.ledger.files = _ := innerFiles
      rw [left, kept, entered, told, List.filterMap_append, List.foldl_append]
      rfl

theorem run_tells (events : List Event) (journal : Journal) :
    (tells events).run limits journal = journal.tellAll limits events := by
  induction events generalizing journal with
  | nil => rfl
  | cons event rest ih => exact ih (journal.tell limits event)

end Script

end Runs

end Notice

namespace Analysis

open Notice Files

def script (setting : Setting) (times : Times) (tree : Tree) (request : Request) (next : Script) :
    Script :=
  .within request.scope (.tells (run setting times request tree).events) next

section Analyses

variable {setting : Setting} {times : Times} {tree : Tree} {request : Request}

theorem run_script (journal : Journal) (next : Script)
    (finished : (run setting times request tree).result ≠ .error .panicked) :
    (script setting times tree request next).run setting.limits.notices journal =
      next.run setting.limits.notices (runIn journal setting times tree request).2 := by
  show next.run _ (((Script.tells _).run _ (journal.enter request.scope)).leave) = _
  rw [Script.run_tells]
  unfold runIn workIn
  dsimp only
  split
  · rename_i panicked
    exact absurd panicked finished
  · rfl

theorem runIn_of_panic (journal : Journal)
    (panicked : (run setting times request tree).result = .error .panicked) :
    (runIn journal setting times tree request).2 =
      (Script.tells (run setting times request tree).events).run setting.limits.notices
        (journal.enter request.scope) := by
  rw [Script.run_tells]
  unfold runIn workIn
  dsimp only
  rw [panicked]
  rfl

end Analyses

/-- While there is room, a script adds to each file the problems that are told in it, without those
told behind the work on another file inside it, and each names the file if that is wanted. Behind
the work on any file none is at hand. Analyses are such work, unless they break off in a panic:
then they tell what they say, and their input stays at hand. -/
theorem kept_of_script {limits : NoticeLimits} {journal : Journal} {made : List Ledger.Call}
    (script : Script) (reached : journal.ledger = Ledger.after limits made)
    (room : Ledger.HasRoom limits journal.ledger.files (script.offers limits journal)) :
    let after := script.run limits journal
    (∀ path, after.ledger.eventsOf path = journal.ledger.eventsOf path ++
      Ledger.offersAt (Path.parts path) (script.offers limits journal)) ∧
    (journal.preferences.nameFile = true → ∀ offer ∈ script.offers limits journal,
      offer.2.context.lookup "file" = some offer.1) ∧
    after.scope = (if script.enters then none else journal.scope) ∧
    ∀ setting times tree request, setting.limits.notices = limits →
      ((run setting times request tree).result ≠ .error .panicked → ∀ next,
        (Analysis.script setting times tree request next).run limits journal =
          next.run limits (runIn journal setting times tree request).2) ∧
      ((run setting times request tree).result = .error .panicked →
        (runIn journal setting times tree request).2 =
          (Script.tells (run setting times request tree).events).run limits
            (journal.enter request.scope)) := by
  intro after
  obtain ⟨-, scope, files⟩ := @Script.run_spec limits script journal journal.scope false rfl
  have sorted : Ledger.Sorted journal.ledger.files := by
    rw [reached]
    exact (Ledger.after_holds limits made).sorted
  refine ⟨fun path => ?_, fun named offer member => ?_, scope, ?_⟩
  · rw [Ledger.eventsOf_eq, Ledger.eventsOf_eq, files]
    exact Ledger.eventsAt_foldl sorted room _
  · obtain ⟨told, -, offered⟩ := List.mem_filterMap.mp member
    obtain ⟨file, -, problem⟩ := Option.bind_eq_some_iff.mp offered
    obtain ⟨-, same⟩ := Option.ite_none_right_eq_some.mp problem
    obtain rfl := Option.some.inj same
    exact lookup_stamped named file told.event
  · rintro setting times tree request rfl
    exact ⟨fun finished next => run_script journal next finished, runIn_of_panic journal⟩

/-- Events are told before, in and behind the work on an inner file, and behind all work. -/
theorem kept_of_script_nested :
    let limits := Limits.development.notices
    let journal : Journal := ⟨{}, none, .empty, ⟨.debug, .ofStore⟩⟩
    let warning := Event.warning .unmatchedInput "gap"
    let outer : FileScope := ⟨"a.c", 0⟩
    let inner : FileScope := ⟨"b.c", 1⟩
    let script : Script := .within outer
      (.tell warning (.within inner (.tell warning .done) (.tell warning .done)))
      (.tell warning .done)
    let after := script.run limits journal
    (journal.ledger = Ledger.after limits [] ∧
      Ledger.HasRoom limits journal.ledger.files (script.offers limits journal)) ∧
    after.ledger.eventsOf "a.c" =
      [Journal.stamped limits journal.preferences (some outer) warning] ∧
    after.ledger.eventsOf "b.c" =
      [Journal.stamped limits journal.preferences (some inner) warning] ∧
    after.scope = none := by
  intro limits journal warning outer inner script after
  have offered : script.offers limits journal =
      [("a.c", Journal.stamped limits journal.preferences (some outer) warning),
        ("b.c", Journal.stamped limits journal.preferences (some inner) warning)] := rfl
  have room : Ledger.HasRoom limits journal.ledger.files (script.offers limits journal) := by
    rw [offered]
    refine ⟨by decide, fun offer _ => ?_⟩
    rw [Ledger.offersAt, List.length_map]
    have few := List.length_filter_le
      (fun other => decide (Path.parts offer.1 = Path.parts other.1))
      [("a.c", Journal.stamped limits journal.preferences (some outer) warning),
        ("b.c", Journal.stamped limits journal.preferences (some inner) warning)]
    show 0 + _ ≤ 500
    rw [Nat.zero_add]
    exact few.trans (by decide)
  have apart : Path.parts "a.c" ≠ Path.parts "b.c" := by decide
  obtain ⟨events, -, scope, -⟩ := @kept_of_script limits journal [] script rfl room
  refine ⟨⟨rfl, room⟩, ?_, ?_, scope⟩
  · rw [events, offered, Ledger.offersAt_cons, Ledger.offersAt_cons, if_pos rfl, if_neg apart]
    rfl
  · rw [events, offered, Ledger.offersAt_cons, Ledger.offersAt_cons, if_neg apart.symm, if_pos rfl]
    rfl

/-- An error that is told in the work on one file, behind the work on another, is kept for
neither. -/
theorem unkept_behind_inner :
    let limits := Limits.development.notices
    let journal : Journal := ⟨{}, none, .empty, ⟨.debug, .ofStore⟩⟩
    let event := Event.error .identifierTooLong "behind the inner file"
    let script : Script := .within ⟨"a.c", 0⟩ (.within ⟨"b.c", 0⟩ .done (.tell event .done)) .done
    event.isProblem = true ∧
      script.told journal.scope false = [⟨event, some ⟨"a.c", 0⟩, true⟩] ∧
      (∀ path, (script.run limits journal).ledger.eventsOf path = []) ∧
      let outer := journal.enter ⟨"a.c", 0⟩
      (outer.within ⟨"b.c", 0⟩ fun journal => ((), journal)).2.scope ≠ outer.scope := by
  intro limits journal event script
  obtain ⟨-, -, files⟩ := @Script.run_spec limits script journal none false rfl
  have nothing : (script.run limits journal).ledger.files = [] := files
  refine ⟨rfl, rfl, fun path => ?_, nofun⟩
  rw [Ledger.eventsOf, nothing]
  rfl

end Analysis

end LexReport
