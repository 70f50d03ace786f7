import LexReport.Proofs.Symbol.Table

/-! A table being filled under any sequence of single offers and fillings. What it holds, what it
answers and what it tells at each point follow from the entries that were offered up to there. -/

set_option autoImplicit false

namespace LexReport.Symbol

open Notice

inductive Call where
  | offer (entry : Entry)
  | fill (tokens : List Token)

structure Session where
  draft : Draft := .empty
  events : List Event := []

section Definitions

variable (limits : SymbolLimits) (preferences : SymbolPreferences)

namespace Draft

/-- Of entries that are offered in order, those up to the first that is refused, and the error that
refuses it. -/
def untilRefused (draft : Draft) : List Entry → List Entry × Option Error
  | [] => ([], none)
  | entry :: rest =>
    match offerEntry limits preferences draft entry with
    | ⟨.error error, _, _⟩ => ([entry], some error)
    | ⟨.ok _, next, _⟩ =>
      let more := untilRefused next rest
      (entry :: more.1, more.2)

structure Answers (draft : Draft) (entry : Entry) : Prop where
  added : (offerEntry limits preferences draft entry).outcome = .ok true ↔
    draft.Lacks entry ∧ ¬ draft.IsFull limits
  passed : (offerEntry limits preferences draft entry).outcome = .ok false ↔
    ¬ draft.Lacks entry ∨ draft.IsFull limits ∧ preferences.enforceLimit = false
  refused : ∀ error, (offerEntry limits preferences draft entry).outcome = .error error ↔
    error = .tableFull entry.name ∧ draft.Lacks entry ∧ draft.IsFull limits ∧
      preferences.enforceLimit = true
  unchanged : (offerEntry limits preferences draft entry).outcome ≠ .ok true →
    (offerEntry limits preferences draft entry).draft.entries = draft.entries

end Draft

def Call.offers (draft : Draft) : Call → List Entry
  | .offer entry => [entry]
  | .fill tokens =>
    (draft.untilRefused limits preferences (tokens.filterMap Entry.ofToken?)).1

namespace Session

def offer (session : Session) (entry : Entry) : Session :=
  let made := session.draft.offerEntry limits preferences entry
  ⟨made.draft, session.events ++ made.events⟩

def call (session : Session) : Call → Session
  | .offer entry => session.offer limits preferences entry
  | .fill tokens =>
    let filled := session.draft.fill limits preferences session.events tokens
    ⟨filled.draft, filled.events⟩

def offers (session : Session) : List Call → List Entry
  | [] => []
  | call :: rest =>
    call.offers limits preferences session.draft ++
      offers (session.call limits preferences call) rest

def offerAll (session : Session) (entries : List Entry) : Session :=
  entries.foldl (offer limits preferences) session

def after (offered : List Entry) : Session := offerAll limits preferences {} offered

def dropped (session : Session) : List Entry → List Entry
  | [] => []
  | entry :: rest =>
    (if session.draft.Drops limits preferences entry then [entry] else []) ++
      dropped (session.offer limits preferences entry) rest

structure Kept (offered : List Entry) (session : Session) : Prop where
  /-- One entry for each key, in the order of their first offers and as many as the limit allows. -/
  keys : session.draft.entries.toList.map Entry.key =
    (offered.map Entry.key).eraseDups.take limits.maxSymbolEntries
  /-- Each entry is the first that was offered with its key. -/
  entries : ∀ entry ∈ session.draft.entries.toList,
    offered.find? (fun other => other.key = entry.key) = some entry
  seen : ∀ key, session.draft.keys.contains key = true ↔
    key ∈ session.draft.entries.toList.map Entry.key
  truncated : session.draft.isTruncated = true ↔ dropped limits preferences {} offered ≠ []
  told : session.events =
    ((dropped limits preferences {} offered).head?.map fun entry =>
      Draft.fullEvent limits entry.firstSeen).toList

end Session

end Definitions

variable {limits : SymbolLimits} {preferences : SymbolPreferences} {offered : List Entry}

namespace Draft

variable {draft : Draft}

theorem offer_answers (fed : Fed limits offered draft) (entry : Entry) :
    Answers limits preferences draft entry := by
  rcases offerEntry_cases fed preferences entry with ⟨held, made⟩ | ⟨lacks, full, strict, made⟩ |
    ⟨⟨lacks, full, lenient⟩, made⟩ | ⟨lacks, room, made⟩
  · constructor <;> simp [made, held]
  · constructor <;> simp [made, lacks, full, strict, eq_comm]
  · constructor <;> simp [made, lacks, full, lenient]
  · constructor <;> simp [made, lacks, room]

/-- An entry that is dropped sets the mark, and the first of them is told. -/
theorem offer_told (fed : Fed limits offered draft) (preferences : SymbolPreferences)
    (entry : Entry) :
    (offerEntry limits preferences draft entry).draft.isTruncated =
        (draft.isTruncated || decide (draft.Drops limits preferences entry)) ∧
      (offerEntry limits preferences draft entry).events =
        if draft.Drops limits preferences entry ∧ draft.isTruncated = false
        then [fullEvent limits entry.firstSeen] else [] := by
  rcases offerEntry_cases fed preferences entry with ⟨held, made⟩ | ⟨lacks, full, strict, made⟩ |
    ⟨drops, made⟩ | ⟨lacks, room, made⟩
  · simp [made, Drops, held]
  · simp [made, Drops, strict]
  · cases marked : draft.isTruncated <;> simp [made, drops, marked]
  · simp [made, Drops, room]

theorem fill_eq (tokens : List Token) (session : Session) :
    session.draft.fill limits preferences session.events tokens =
      let asked := session.draft.untilRefused limits preferences (tokens.filterMap Entry.ofToken?)
      let reached := session.offerAll limits preferences asked.1
      ⟨asked.2, reached.draft, reached.events⟩ := by
  -- Tokens without a class are passed over on both sides, and a refusal ends both.
  induction tokens generalizing session with
  | nil => rfl
  | cons token rest ih =>
    rw [List.filterMap_cons]
    cases asked : Entry.ofToken? token with
    | none =>
      rw [fill_cons_of_none asked]
      exact ih session
    | some entry =>
      rw [fill_cons_of_some asked, untilRefused]
      have next : session.offer limits preferences entry =
          ⟨(offerEntry limits preferences session.draft entry).draft,
            session.events ++ (offerEntry limits preferences session.draft entry).events⟩ :=
        rfl
      generalize offerEntry limits preferences session.draft entry = made at next ⊢
      obtain ⟨outcome, draft, more⟩ := made
      cases outcome with
      | error error =>
        dsimp only
        rw [Session.offerAll, List.foldl_cons, next]
        rfl
      | ok isNew =>
        dsimp only
        rw [Session.offerAll, List.foldl_cons, next]
        exact ih ⟨draft, session.events ++ more⟩

end Draft

namespace Session

theorem call_eq (session : Session) (call : Call) :
    session.call limits preferences call =
      session.offerAll limits preferences (call.offers limits preferences session.draft) := by
  cases call with
  | offer entry => rfl
  | fill tokens =>
    show (⟨(session.draft.fill limits preferences session.events tokens).draft,
      (session.draft.fill limits preferences session.events tokens).events⟩ : Session) = _
    rw [Draft.fill_eq]
    rfl

theorem offerAll_append (session : Session) (entries more : List Entry) :
    session.offerAll limits preferences (entries ++ more) =
      (session.offerAll limits preferences entries).offerAll limits preferences more :=
  List.foldl_append

theorem calls_eq (calls : List Call) (session : Session) :
    calls.foldl (call limits preferences) session =
      session.offerAll limits preferences (session.offers limits preferences calls) := by
  induction calls generalizing session with
  | nil => rfl
  | cons call rest ih => rw [List.foldl_cons, ih, offers, offerAll_append, call_eq]

theorem after_concat (offered : List Entry) (entry : Entry) :
    after limits preferences (offered ++ [entry]) =
      (after limits preferences offered).offer limits preferences entry :=
  offerAll_append _ _ _

theorem dropped_concat (session : Session) (offered : List Entry) (entry : Entry) :
    dropped limits preferences session (offered ++ [entry]) =
      dropped limits preferences session offered ++
        if (session.offerAll limits preferences offered).draft.Drops limits preferences entry
        then [entry] else [] := by
  induction offered generalizing session with
  | nil =>
    rw [List.nil_append, dropped, dropped, dropped, List.append_nil, List.nil_append]
    rfl
  | cons first rest ih =>
    rw [List.cons_append, dropped, dropped, ih, List.append_assoc]
    rfl

theorem after_fed (limits : SymbolLimits) (preferences : SymbolPreferences)
    (offered : List Entry) :
    Draft.Fed limits offered (after limits preferences offered).draft := by
  induction offered using List.reverseRecOn with
  | nil => exact Draft.fed_empty limits
  | append_singleton offered entry ih =>
    rw [after_concat]
    exact Draft.offer_fed ih entry preferences

/-- The mark and the warning say that an entry was dropped, and the warning names the first. -/
theorem after_told (limits : SymbolLimits) (preferences : SymbolPreferences)
    (offered : List Entry) :
    ((after limits preferences offered).draft.isTruncated = true ↔
      dropped limits preferences {} offered ≠ []) ∧
    (after limits preferences offered).events =
      ((dropped limits preferences {} offered).head?.map fun entry =>
        Draft.fullEvent limits entry.firstSeen).toList := by
  induction offered using List.reverseRecOn with
  | nil => exact ⟨by simp [after, offerAll, dropped, Draft.empty], rfl⟩
  | append_singleton offered entry ih =>
    obtain ⟨marks, tells⟩ :=
      Draft.offer_told (after_fed limits preferences offered) preferences entry
    rw [after_concat, dropped_concat, ← after, offer]
    generalize after limits preferences offered = session at *
    generalize dropped limits preferences {} offered = lost at *
    obtain ⟨marked, told⟩ := ih
    dsimp only
    rw [marks, tells, told]
    by_cases drops : session.draft.Drops limits preferences entry
    · -- The entry is told only if none was dropped before.
      cases lost with
      | nil =>
        have unmarked : session.draft.isTruncated = false := by simpa using marked
        simp [drops, unmarked]
      | cons first rest =>
        have already : session.draft.isTruncated = true := by simpa using marked
        simp [drops, already]
    · rw [if_neg drops, if_neg fun both => drops both.1, List.append_nil, List.append_nil,
        decide_eq_false drops, Bool.or_false]
      exact ⟨marked, rfl⟩

theorem after_kept (limits : SymbolLimits) (preferences : SymbolPreferences)
    (offered : List Entry) :
    Kept limits preferences offered (after limits preferences offered) := by
  have fed := after_fed limits preferences offered
  obtain ⟨marked, told⟩ := after_told limits preferences offered
  have keys : (firsts Entry.key offered).map Entry.key = (offered.map Entry.key).eraseDups :=
    (@map_firsts _ _ _ _ _ _ Entry.key id Entry.key (fun _ _ => Iff.rfl) offered).trans
      (firsts_id _)
  refine ⟨?_, ?_, fed.keyed, marked, told⟩
  · rw [fed.entries, List.map_take, keys]
  · intro entry member
    rw [fed.entries] at member
    exact find?_of_mem_firsts (List.mem_of_mem_take member)

end Session

/-- Under any sequence of offers and fillings of an empty table, and at each point of it, what is
held, answered and told follows from the entries that were offered up to there. -/
theorem session_kept (limits : SymbolLimits) (preferences : SymbolPreferences)
    (calls : List Call) (reached : Nat) :
    let offered := Session.offers limits preferences {} calls
    let session := Session.after limits preferences (offered.take reached)
    calls.foldl (Session.call limits preferences) {} =
        Session.after limits preferences offered ∧
      Session.Kept limits preferences (offered.take reached) session ∧
      (∀ entry, Draft.Answers limits preferences session.draft entry) ∧
      ∀ tokens, (session.draft.fill limits preferences session.events tokens).stopped =
        (session.draft.untilRefused limits preferences (tokens.filterMap Entry.ofToken?)).2 := by
  refine ⟨Session.calls_eq calls {}, Session.after_kept limits preferences _, ?_, ?_⟩
  · exact Draft.offer_answers (Session.after_fed limits preferences _)
  · intro tokens
    rw [Draft.fill_eq]

end LexReport.Symbol
