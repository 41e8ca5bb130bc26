import Contracts.Format.Fields
import Contracts.Proofs.Dict
import Mathlib.Data.Nat.Init

/-!
# What readers give

A reader **gives** only values of some sort if whatever it reads is of that sort.  A
reader that is put together from others gives what they give: for each way of putting
readers together there is one fact here, so that a property of what a format reads is a
property of the parts it starts from.

## Main definitions

* `Json.Reader.Gives` — every value that is read has a property.

## Main results

* `Json.gives_readItems`, `Json.gives_readMembers` — lists and objects.
* `Json.gives_readFields` — both forms of a format with named fields.
* `Json.of_readWhole` — whole texts.
-/

namespace Contracts.Json

variable {α β σ : Type}

namespace Reader

/-- Whatever a reader reads has a property. -/
def Gives (reader : Reader α) (P : α → Prop) : Prop :=
  ∀ input read, reader input = .ok read → P read.value

variable {reader : Reader α} {P : α → Prop}

theorem gives_any (reader : Reader α) : reader.Gives fun _ => True := fun _ _ _ => trivial

theorem Gives.map (h : reader.Gives P) {f : α → β} {R : β → Prop}
    (mapped : ∀ value, P value → R (f value)) : (Reader.map f reader).Gives R := by
  intro input read ok
  rw [Reader.map] at ok
  cases result : reader input with
  | error fault => rw [result] at ok; cases ok
  | ok original =>
    rw [result] at ok
    cases ok
    exact mapped _ (h _ _ result)

end Reader

variable {P : α → Prop}

/-- What is read from the back part of longer characters is what is read there. -/
theorem of_map_widen {reader : Reader α} {input whole : List Char}
    {notLonger : input.length ≤ whole.length} {read : Read α whole} (h : reader.Gives P)
    (ok : (reader input).map (Read.widen · notLonger) = .ok read) : P read.value := by
  cases result : reader input with
  | error fault => rw [result] at ok; cases ok
  | ok original =>
    rw [result] at ok
    cases ok
    exact h input original result

/-- A whole text is what its reader gives. -/
theorem of_readWhole {reader : Reader α} {text : String} {value : α} (h : reader.Gives P)
    (ok : readWhole reader text = .ok value) : P value := by
  unfold readWhole at ok
  split at ok
  · cases ok
  · next read result =>
    split at ok
    · cases ok
      exact h _ _ result
    · cases ok

/-! ### Values -/

/-- A value is what the reader that was chosen gives, where what is made of a scalar depends on
what scalars are read. -/
theorem gives_dispatch_of_scalars {scalar : Scalar → Except Reason α} {list object : Reader α}
    {S : Scalar → Prop} (scalars : readScalar.Gives S)
    (ofScalar : ∀ found value, S found → scalar found = .ok value → P value)
    (ofList : list.Gives P) (ofObject : object.Gives P) :
    (dispatch scalar list object).Gives P := by
  intro input read ok
  unfold dispatch at ok
  dsimp only at ok
  split at ok
  · exact of_map_widen ofList ok
  · exact of_map_widen ofObject ok
  · split at ok
    · cases ok
    · next found _ _ result =>
      split at ok
      · cases ok
      · next accepted =>
        cases ok
        exact ofScalar _ _ (scalars _ _ result) accepted

theorem gives_dispatch {scalar : Scalar → Except Reason α} {list object : Reader α}
    (ofScalar : ∀ found value, scalar found = .ok value → P value) (ofList : list.Gives P)
    (ofObject : object.Gives P) : (dispatch scalar list object).Gives P :=
  gives_dispatch_of_scalars (Reader.gives_any readScalar)
    (fun found value _ => ofScalar found value) ofList ofObject

theorem gives_refuse {found : Found} {expected : String} :
    (refuse found expected : Reader α).Gives P :=
  fun _ _ ok => nomatch ok

theorem gives_stepInside {inside : Reader α} (h : inside.Gives P) :
    (stepInside inside).Gives P := by
  intro input read ok
  cases input with
  | nil => cases ok
  | cons c rest => exact of_map_widen h ok

theorem gives_bracketed {depth : Nat} {inside : Nat → Reader α}
    (h : ∀ depth, (inside depth).Gives P) : (bracketed depth inside).Gives P := by
  cases depth with
  | zero => exact fun _ _ ok => nomatch ok
  | succ depth => exact gives_stepInside (h depth)

/-! ### Lists and objects -/

/-- The items of a list are what their reader gives. -/
theorem gives_readItems {item : Reader α} (h : item.Gives P) (first : Bool) :
    Reader.Gives (readItems item first) fun values => ∀ value ∈ values, P value := by
  intro input read ok
  fun_induction readItems item first input with
  | case1 | case3 | case4 => cases ok
  | case2 => cases ok; exact fun _ member => nomatch member
  | case5 _ _ rest _ _ value after shorter readValue _ more readMore ih =>
    cases ok
    exact List.forall_mem_cons.2 ⟨h rest ⟨value, after, shorter⟩ readValue, ih more readMore⟩

/-- A property of the state that the members of an object keep is a property of what the
object leads to. -/
theorem gives_readMembers {member : σ → String → Except Reason (Reader σ)} {P : σ → Prop}
    (step : ∀ state key value, P state → member state key = .ok value → value.Gives P)
    (first : Bool) {state : σ} (start : P state) :
    Reader.Gives (readMembers member first state) P := by
  intro input read ok
  fun_induction readMembers member first state input with
  | case1 | case3 | case4 | case5 | case6 | case7 => cases ok
  | case2 => cases ok; exact start
  | case8 _ state _ _ _ _ key _ _ _ value accepted afterColon _ _ next after shorter readValue
      more readMore ih =>
    cases ok
    have kept : P next := step state key value start accepted _ ⟨next, after, shorter⟩ readValue
    exact ih kept more readMore

/-- The values of an object with one reader are what that reader gives. -/
theorem gives_readDict {value : Reader β} {P : β → Prop} (h : value.Gives P) :
    (readDict value).Gives fun dict => ∀ entry ∈ dict.entries, P entry.2 := by
  refine gives_readMembers (fun dict key reader kept accepted => ?_) true
    fun _ member => nomatch member
  cases accepted
  refine h.map fun value sort entry member => ?_
  rcases Dict.mem_insertEntry member with rfl | member
  · exact sort
  · exact kept entry member

/-! ### Named fields -/

theorem gives_readField {first : Bool} {field : Reader α} {absent : Except Reason β}
    {present : α → Reader β} {P : α → Prop} {Q : β → Prop} (ofField : field.Gives P)
    (ofAbsent : ∀ value, absent = .ok value → Q value)
    (ofPresent : ∀ value, P value → (present value).Gives Q) :
    (readField first field absent present).Gives Q := by
  intro input read ok
  unfold readField at ok
  split at ok
  · cases ok
  · split at ok
    · cases ok
      exact ofAbsent _ rfl
    · cases ok
  · split at ok
    · cases ok
    · next readField =>
      exact of_map_widen (ofPresent _ (ofField _ _ readField)) ok

theorem gives_endFields {value : α} (h : P value) : (endFields value).Gives P := by
  intro input read ok
  unfold endFields at ok
  split at ok
  · cases ok
  · split at ok
    · cases ok
      exact h
    · split at ok
      · split at ok <;> cases ok
      · cases ok

theorem gives_requiring {check : α → Except Reason β} {reader : Reader α} {Q : β → Prop}
    (h : reader.Gives P) (checked : ∀ value result, P value → check value = .ok result → Q result) :
    (requiring check reader).Gives Q := by
  intro input read ok
  unfold requiring at ok
  split at ok
  · cases ok
  · next value rest shorter result =>
    split at ok
    · next accepted =>
      cases ok
      exact checked _ _ (h _ _ result) accepted
    · cases ok

theorem gives_readFields {expected : String} {depth : Nat} {list object : Nat → Reader α}
    (ofList : ∀ depth, (list depth).Gives P) (ofObject : ∀ depth, (object depth).Gives P) :
    (readFields expected depth list object).Gives P :=
  gives_dispatch (fun _ _ accepted => nomatch accepted) (gives_bracketed ofList)
    (gives_bracketed ofObject)

/-- A member that may be given once is read by its reader. -/
theorem gives_once {key : String} {given : Option α} {value reader : Reader β} {P : β → Prop}
    (accepted : once key given value = .ok reader) (h : value.Gives P) : reader.Gives P := by
  unfold once at accepted
  split at accepted
  · cases accepted
  · cases accepted
    exact h

end Contracts.Json
