import LexReport.Token.Form
import Mathlib.Data.List.Forall2
import Mathlib.Data.List.Nodup

/-! Tokens are read again from their forms. -/

set_option autoImplicit false

namespace LexReport

open Json (Value)

section Fields

theorem Json.mapM_map {α β : Type} {f : α → β} {g : β → Option α} {xs : List α}
    (back : ∀ x ∈ xs, g (f x) = some x) : (xs.map f).mapM g = some xs := by
  induction xs with
  | nil => rfl
  | cons x xs ih =>
    rw [List.map_cons, List.mapM_cons, back x List.mem_cons_self,
      ih fun y member => back y (List.mem_cons_of_mem _ member)]
    rfl

theorem Json.fieldNames?_some (fields : List (String × Value)) :
    Json.fieldNames? (fields.map fun (name, value) => (some name, value)) = some fields :=
  Json.mapM_map fun _ _ => rfl

theorem Json.onlyField?_of_mem {fields : List (String × Value)} {name : String} {value : Value}
    (member : (name, value) ∈ fields) (distinct : (fields.map Prod.fst).Nodup) :
    Json.onlyField? fields name = some value := by
  have only : fields.filter (fun field => field.1 == name) = [(name, value)] := by
    induction fields with
    | nil => contradiction
    | cons field fields ih =>
      rw [List.map_cons, List.nodup_cons] at distinct
      rcases List.mem_cons.mp member with rfl | later
      · have none : fields.filter (fun field => field.1 == name) = [] := by
          rw [List.filter_eq_nil_iff]
          intro other among same
          exact distinct.1 (List.mem_map.mpr ⟨other, among, beq_iff_eq.mp same⟩)
        rw [List.filter_cons_of_pos (by simp), none]
      · have unlike : field.1 ≠ name := by
          rintro rfl
          exact distinct.1 (List.mem_map.mpr ⟨_, later, rfl⟩)
        rw [List.filter_cons_of_neg (by simpa using unlike), ih later distinct.2]
  rw [onlyField?, only]

theorem Json.fields?_ofFields {all : List (String × Value)} {names wanted : List String}
    {values : List Value} (named : all.map Prod.fst = names) (distinct : names.Nodup)
    (among : List.Forall₂ (fun name value => (name, value) ∈ all) wanted values) :
    Json.fields? wanted (.ofFields all) = some values := by
  subst named
  rw [Value.ofFields, Json.fields?, Json.fieldNames?_some]
  show wanted.mapM (Json.onlyField? all) = _
  induction among with
  | nil => rfl
  | cons member among ih =>
    rw [List.mapM_cons, Json.onlyField?_of_mem member distinct, ih]
    rfl

theorem Json.fields?_record {fields : List (String × Value)} {names : List String}
    (named : fields.map Prod.fst = names) (distinct : names.Nodup) :
    Json.fields? names (.ofFields fields) = some (fields.map Prod.snd) := by
  refine Json.fields?_ofFields named distinct ?_
  rw [← named, List.forall₂_map_left_iff, List.forall₂_map_right_iff, List.forall₂_same]
  exact fun field member => member

theorem Json.natBelow?_ofNat {n bound : Nat} (below : n < bound) :
    Json.natBelow? bound (.ofNat n) = some n := by
  rw [Value.ofNat, Json.natBelow?, if_pos below]

end Fields

theorem Category.ofForm?_form (category : Category) : ofForm? category.form = some category :=
  ofName?_name category

namespace Source

theorem Position.ofForm?_form {place : Position} (small : place.offset < UInt64.size) :
    ofForm? place.form = some place := by
  have fields : Json.fields? ["offset", "line", "column"] place.form = some [.ofNat place.offset,
      .ofNat place.line.toNat, .ofNat place.column.toNat] := Json.fields?_record rfl (by decide)
  rw [ofForm?, fields]
  dsimp only [Option.bind_eq_bind, Option.bind_some]
  rw [Json.natBelow?_ofNat small, Json.natBelow?_ofNat place.line.toNat_lt,
    Json.natBelow?_ofNat place.column.toNat_lt]
  simp

structure Span.IsSmall (span : Span) : Prop where
  first : span.first.offset < UInt64.size
  last : span.last.offset < UInt64.size

theorem Span.ofForm?_form {span : Span} (small : span.IsSmall) : ofForm? span.form = some span := by
  have fields : Json.fields? ["start", "end"] span.form =
      some [span.first.form, span.last.form] := Json.fields?_record rfl (by decide)
  rw [ofForm?, fields]
  dsimp only [Option.bind_eq_bind, Option.bind_some]
  rw [Position.ofForm?_form small.first, Position.ofForm?_form small.last]
  rfl

end Source

namespace Token

theorem ofForm?_form {token : Token} (small : token.span.IsSmall) :
    ofForm? token.form = some token := by
  have fields : Json.fields? ["category", "lexeme", "span"] token.form =
      some [token.category.form, .ofString token.lexeme, token.span.form] :=
    Json.fields?_record rfl (by decide)
  rw [ofForm?, fields]
  dsimp only [Option.bind_eq_bind, Option.bind_some]
  rw [Category.ofForm?_form, Source.Span.ofForm?_form small]
  rfl

theorem listOfForm?_listForm {tokens : List Token} (small : ∀ token ∈ tokens, token.span.IsSmall) :
    listOfForm? (listForm tokens) = some tokens :=
  Json.mapM_map fun token member => ofForm?_form (small token member)

end Token

end LexReport
