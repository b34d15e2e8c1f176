import Countersign.Proofs.DateText
import Countersign.Proofs.DecimalRounding
import Countersign.Proofs.DecimalText
import Countersign.Proofs.JsonText
import Countersign.Setup.Basic
import Mathlib.Data.List.Nodup

/-!
The values of a setup in JSON. Whatever text a value was read from, what is written for it is read
back as a value like it: the same in all fields, where a decimal has the same value at the same
scale. A field is followed by its reader, which says what it lets through, and by its writer.
-/

namespace Countersign

/-- One value at one scale; a zero has no sign that counts. -/
def Decimal.Alike (a b : Decimal) : Prop := a.units = b.units ∧ a.scale = b.scale

theorem Decimal.unsignZero_alike (d : Decimal) : d.unsignZero.Alike d := ⟨units_unsignZero d, rfl⟩

def Threshold.Alike : Threshold → Threshold → Prop
  | .unbounded, .unbounded => True
  | .limit a, .limit b => a.Alike b
  | _, _ => False

def Loan.Alike (a b : Loan) : Prop := a = { b with principal := a.principal } ∧ a.principal.Alike b.principal

def Charge.Alike (a b : Charge) : Prop := a = { b with outstanding := a.outstanding } ∧ a.outstanding.Alike b.outstanding

def TemplateEntry.Alike (a b : TemplateEntry) : Prop := a = { b with limit := a.limit } ∧ a.limit.Alike b.limit

namespace Json

section

variable {α : Type} {decode : Json → Option α} {encode : α → Json} {Like : α → α → Prop} {P : α → Prop}

/-- A value is read back from what is written for it, as one that is like it. -/
structure Returns (decode : Json → Option α) (encode : α → Json) (Like : α → α → Prop) (value : α) : Prop where
  proper : (encode value).Proper
  read : ∃ again, decode (encode value) = some again ∧ Like again value

def Yields (decode : Json → Option α) (P : α → Prop) : Prop := ∀ j value, decode j = some value → P value

/-- Whatever was read from a text is written to a text that it is read back from. -/
def Survives (decode : Json → Option α) (encode : α → Json) (Like : α → α → Prop) : Prop :=
  ∀ text value, (parse text).bind decode = some value →
    ∃ again, (parse (encode value).render).bind decode = some again ∧ Like again value

theorem Yields.survives (yields : Yields decode (Returns decode encode Like)) : Survives decode encode Like := by
  intro text value read
  obtain ⟨j, _, decoded⟩ := Option.bind_eq_some_iff.mp read
  obtain ⟨proper, again, reread, like⟩ := yields j value decoded
  exact ⟨again, by rw [parse_render _ proper]; exact reread, like⟩

/-! Readers of fields. -/

@[simp] theorem Fields.required_named (fields : List (String × Json)) (name : String) :
    (Fields.named fields).required name decode = (fields.lookup name).bind decode := rfl

@[simp] theorem Fields.withDefault_named (fields : List (String × Json)) (name : String) (default : α) :
    (Fields.named fields).withDefault name decode default =
      match fields.lookup name with
      | some j => decode j
      | none => some default := rfl

theorem Fields.required_yields {fields : Fields} {name : String} {value : α}
    (read : fields.required name decode = some value) (yields : Yields decode P) : P value := by
  obtain ⟨j, _, decoded⟩ := Option.bind_eq_some_iff.mp read
  exact yields j value decoded

theorem Fields.withDefault_yields {fields : Fields} {name : String} {value default : α}
    (read : fields.withDefault name decode default = some value) (yields : Yields decode P) (otherwise : P default) :
    P value := by
  unfold withDefault at read
  split at read
  next j _ => exact yields j value read
  next => exact Option.some.inj read ▸ otherwise

theorem nullable_yields (yields : Yields decode P) : Yields (nullable? decode) fun value => ∀ a ∈ value, P a := by
  intro j value read a mem
  rw [Option.mem_def] at mem
  subst mem
  have decoded : decode j = some a := by cases j <;> simp_all [nullable?]
  exact yields j a decoded

theorem listOf_yields (yields : Yields decode P) : Yields (listOf? decode) fun values => ∀ a ∈ values, P a := by
  intro j values read
  cases j with
  | array items =>
    change items.mapM decode = some values at read
    induction items generalizing values with
    | nil =>
      cases read
      exact nofun
    | cons item rest ih =>
      simp only [List.mapM_cons, Option.bind_eq_bind, Option.bind_eq_some_iff, Option.pure_def, Option.some.injEq] at read
      obtain ⟨first, decoded, others, more, rfl⟩ := read
      intro a mem
      rcases List.mem_cons.mp mem with rfl | later
      · exact yields item a decoded
      · exact ih others more a later
  | _ => cases read

theorem nullable_returns (solid : ∀ a, encode a ≠ .null) {value : Option α}
    (returns : ∀ a ∈ value, Returns decode encode Eq a) :
    Returns (nullable? decode) (ofOption encode) Eq value := by
  cases value with
  | none => exact ⟨trivial, none, rfl, rfl⟩
  | some a =>
    obtain ⟨proper, again, read, rfl⟩ := returns a rfl
    have present : nullable? decode (encode again) = (decode (encode again)).map some := by
      unfold nullable?
      split
      next is => exact absurd is (solid again)
      next => rfl
    exact ⟨proper, some again, by rw [ofOption, present, read]; rfl, rfl⟩

theorem mapM_written {β : Type} {read : β → Option α} {write : α → β} {values : List α}
    (each : ∀ a ∈ values, read (write a) = some a) : (values.map write).mapM read = some values := by
  induction values with
  | nil => rfl
  | cons a rest ih =>
    have others := ih fun b later => each b (List.mem_cons_of_mem a later)
    simp [each a List.mem_cons_self, others]

theorem listOf_returns {values : List α} (returns : ∀ a ∈ values, Returns decode encode Eq a) :
    Returns (listOf? decode) (ofList encode) Eq values := by
  have proper : ProperItems (values.map encode) := by
    rw [properItems_iff, List.forall_mem_map]
    exact fun a mem => (returns a mem).proper
  have each : ∀ a ∈ values, decode (encode a) = some a := by
    intro a mem
    obtain ⟨_, again, read, rfl⟩ := returns a mem
    exact read
  exact ⟨proper, values, mapM_written each, rfl⟩

end

/-! Values of fields. -/

theorem lt_of_natBelow {bound n : Nat} {j : Json} (read : natBelow bound j = some n) : n < bound := by
  cases j with
  | number literal =>
    simp only [natBelow] at read
    split at read
    next =>
      simp only [Option.ite_none_right_eq_some, Option.some.injEq] at read
      exact read.2 ▸ read.1
    next => cases read
  | _ => cases read

theorem natBelow_yields {bound : Nat} (within : bound ≤ UInt64.size) :
    Yields (natBelow bound) (Returns (natBelow bound) ofNat Eq) := by
  intro j n read
  have small : n < bound := lt_of_natBelow read
  have integer : Number.toInt? ⟨false, n, none, none⟩ = some (n : Int) := by
    simp [Number.toInt?, Nat.lt_of_lt_of_le small within]
  refine ⟨nofun, n, ?_, rfl⟩
  simp only [natBelow, ofNat, integer]
  exact if_pos small

theorem id_yields : Yields id? (Returns id? ofNat Eq) := natBelow_yields (Nat.le_refl _)

theorem small_yields : Yields small? (Returns small? ofNat Eq) := natBelow_yields (by decide)

theorem bool_returns (value : Bool) : Returns bool? .bool Eq value := ⟨trivial, value, rfl, rfl⟩

theorem decimal_returns (d : Decimal) : Returns decimal? ofDecimal Decimal.Alike d :=
  ⟨rfl, d.unsignZero, d.ofText?_toText, d.unsignZero_alike⟩

theorem date_returns (date : Date) : Returns date? ofDate Eq date := by
  refine ⟨rfl, date, ?_, rfl⟩
  simp [date?, ofDate, ofText, text?, Date.ofText_toText, Except.toOption]

/-! Records. -/

theorem fields?_record {names : List String} {fields : List (String × Json)} (distinct : (fields.map (·.1)).Nodup) :
    fields? names (record fields) = some (.named fields) := by
  have single : unrepeated names fields = true := by
    refine List.all_eq_true.mpr fun name _ => decide_eq_true ?_
    have once := List.nodup_iff_count_le_one.mp distinct name
    rwa [List.count, List.countP_map, List.countP_eq_length_filter] at once
  have spelled : record fields = .object (fields.map fun field => (some field.1, field.2)) := rfl
  have named : namedFields? (fields.map fun field => (some field.1, field.2)) = some fields :=
    mapM_written fun _ _ => rfl
  simp only [spelled, fields?, object?, named, Option.bind_eq_bind, Option.bind_some, if_pos single]

theorem record_proper {fields : List (String × Json)} (proper : ∀ field ∈ fields, field.2.Proper) :
    (record fields).Proper := by
  have spelled : record fields = .object (fields.map fun field => (some field.1, field.2)) := rfl
  rw [spelled, Proper, properFields_iff, List.forall_mem_map]
  exact fun field mem => ⟨rfl, proper field mem⟩

end Json

theorem LoanStatus.returns (status : LoanStatus) : Json.Returns ofJson? toJson Eq status := by
  refine ⟨rfl, status, ?_, rfl⟩
  cases status <;> rfl

theorem ChargeKind.returns (kind : ChargeKind) : Json.Returns ofJson? (fun kind => .ofText kind.name) Eq kind := by
  refine ⟨rfl, kind, ?_, rfl⟩
  cases kind <;> rfl

theorem Threshold.returns (limit : Threshold) : Json.Returns ofJson? toJson Alike limit := by
  cases limit with
  | unbounded => exact ⟨trivial, .unbounded, rfl, trivial⟩
  | limit value =>
    obtain ⟨proper, again, read, like⟩ := Json.decimal_returns value
    exact ⟨proper, .limit again, congrArg (Option.map ofOption) (congrArg (Option.map some) read), like⟩

open Json (Yields Returns Survives)

namespace Settings

theorem returns : Yields ofJson? (Returns ofJson? toJson Eq) := by
  intro j settings read
  simp only [ofJson?, Option.bind_eq_bind, Option.bind_eq_some_iff, Option.some.injEq] at read
  obtain ⟨fields, _, scale, readScale, payment, readPayment, rfl⟩ := read
  obtain ⟨scaleProper, scale, scaleAgain, rfl⟩ :=
    Json.Fields.withDefault_yields readScale Json.small_yields ⟨nofun, 2, rfl, rfl⟩
  obtain ⟨paymentProper, payment, paymentAgain, rfl⟩ :=
    Json.Fields.withDefault_yields readPayment Json.id_yields ⟨nofun, 1, rfl, rfl⟩
  refine ⟨Json.record_proper (by simp [*]), _, ?_, rfl⟩
  unfold ofJson? toJson
  rw [Json.fields?_record]
  · simp [List.lookup_cons, *]
  · exact (by decide +kernel : fieldNames.Nodup)

end Settings

namespace Approver

theorem returns : Yields ofJson? (Returns ofJson? toJson Eq) := by
  intro j approver read
  simp only [ofJson?, Option.bind_eq_bind, Option.bind_eq_some_iff, Option.some.injEq] at read
  obtain ⟨fields, _, id, readId, roles, readRoles, active, _, rfl⟩ := read
  obtain ⟨activeProper, active, activeAgain, rfl⟩ := Json.bool_returns active
  obtain ⟨idProper, id, idAgain, rfl⟩ := Json.Fields.required_yields readId Json.id_yields
  have each : ∀ role ∈ roles, Returns Json.id? .ofNat Eq role :=
    Json.Fields.withDefault_yields readRoles (Json.listOf_yields Json.id_yields) nofun
  obtain ⟨rolesProper, roles, rolesAgain, rfl⟩ := Json.listOf_returns each
  refine ⟨Json.record_proper (by simp [*]), _, ?_, rfl⟩
  unfold ofJson? toJson
  rw [Json.fields?_record]
  · simp [List.lookup_cons, *]
  · exact (by decide +kernel : fieldNames.Nodup)

end Approver

namespace TemplateEntry

theorem returns : Yields ofJson? (Returns ofJson? toJson Alike) := by
  intro j entry read
  simp only [ofJson?, Option.bind_eq_bind, Option.bind_eq_some_iff, Option.some.injEq] at read
  obtain ⟨fields, _, rank, readRank, role, readRole, limit, _, rfl⟩ := read
  obtain ⟨rankProper, rank, rankAgain, rfl⟩ := Json.Fields.required_yields readRank Json.small_yields
  obtain ⟨roleProper, role, roleAgain, rfl⟩ := Json.Fields.required_yields readRole Json.id_yields
  obtain ⟨limitProper, again, limitAgain, like⟩ := limit.returns
  refine ⟨Json.record_proper (by simp [*]), ⟨rank, role, again⟩, ?_, rfl, like⟩
  unfold ofJson? toJson
  rw [Json.fields?_record]
  · simp [List.lookup_cons, *]
  · exact (by decide +kernel : fieldNames.Nodup)

end TemplateEntry

namespace Charge

theorem returns : Yields ofJson? (Returns ofJson? toJson Alike) := by
  intro j charge read
  simp only [ofJson?, Option.bind_eq_bind, Option.bind_eq_some_iff, Option.some.injEq] at read
  obtain ⟨fields, _, id, readId, kind, _, outstanding, _, paid, _, rfl⟩ := read
  obtain ⟨paidProper, paid, paidAgain, rfl⟩ := Json.bool_returns paid
  obtain ⟨idProper, id, idAgain, rfl⟩ := Json.Fields.required_yields readId Json.id_yields
  obtain ⟨kindProper, kind, kindAgain, rfl⟩ := kind.returns
  obtain ⟨outstandingProper, again, outstandingAgain, like⟩ := Json.decimal_returns outstanding
  refine ⟨Json.record_proper (by simp [*]), ⟨id, kind, again, paid⟩, ?_, rfl, like⟩
  unfold ofJson? toJson
  rw [Json.fields?_record]
  · simp [List.lookup_cons, *]
  · exact (by decide +kernel : fieldNames.Nodup)

end Charge

namespace Loan

theorem returns : Yields ofJson? (Returns ofJson? toJson Alike) := by
  intro j loan read
  simp only [ofJson?, ofFields?, Option.bind_eq_bind, Option.bind_eq_some_iff, Option.some.injEq] at read
  obtain ⟨fields, _, id, readId, product, readProduct, principal, _, status, _, date, _, lien, readLien, scheduled, _,
    rfl⟩ := read
  obtain ⟨scheduledProper, scheduled, scheduledAgain, rfl⟩ := Json.bool_returns scheduled
  obtain ⟨idProper, id, idAgain, rfl⟩ := Json.Fields.required_yields readId Json.id_yields
  obtain ⟨productProper, product, productAgain, rfl⟩ := Json.Fields.required_yields readProduct Json.id_yields
  obtain ⟨principalProper, again, principalAgain, like⟩ := Json.decimal_returns principal
  obtain ⟨statusProper, status, statusAgain, rfl⟩ := status.returns
  have dateReturns : Returns (Json.nullable? Json.date?) (.ofOption .ofDate) Eq date :=
    Json.nullable_returns (by simp [Json.ofDate, Json.ofText]) fun day _ => Json.date_returns day
  have lienReturns : Returns (Json.nullable? Json.id?) (.ofOption .ofNat) Eq lien :=
    Json.nullable_returns (by simp [Json.ofNat]) <|
      Json.Fields.withDefault_yields readLien (Json.nullable_yields Json.id_yields) nofun
  obtain ⟨dateProper, date, dateAgain, rfl⟩ := dateReturns
  obtain ⟨lienProper, lien, lienAgain, rfl⟩ := lienReturns
  refine ⟨Json.record_proper (by simp [*]), ⟨id, product, again, status, date, lien, scheduled⟩, ?_, rfl, like⟩
  unfold ofJson? toJson
  rw [Json.fields?_record]
  · simp [ofFields?, List.lookup_cons, *]
  · exact (by decide +kernel : fieldNames.Nodup)

end Loan

/-- Whatever text a value of a setup was read from, what is written for it is read back as a value
like it: the same in every field, where a decimal has the same value and the same scale. -/
theorem Setup.values_survive :
    Survives Loan.ofJson? Loan.toJson Loan.Alike ∧ Survives Charge.ofJson? Charge.toJson Charge.Alike ∧
      Survives Approver.ofJson? Approver.toJson Eq ∧
      Survives TemplateEntry.ofJson? TemplateEntry.toJson TemplateEntry.Alike ∧
      Survives Settings.ofJson? Settings.toJson Eq :=
  ⟨Loan.returns.survives, Charge.returns.survives, Approver.returns.survives, TemplateEntry.returns.survives,
    Settings.returns.survives⟩

/-- A loan of a negative zero, which an exponent has shrunk, to be paid out in a year of five digits. -/
def Loan.unusual : Loan :=
  ⟨1, 1, { Decimal.zero with negative := true, scale := Decimal.maxScale, scale_le := by decide }, .approved,
    some ⟨12345, 1, 2, by decide⟩, none, false⟩

/-- It is written with all its decimals and read back; and a limit of zero is read back as a limit. -/
theorem Loan.unusual_survives :
    let loan := "\x7b\"id\": 1, \"productId\": 1, \"principal\": \"-0.1e-28\", \"status\": \x7b\"approved\": null\x7d, " ++
      "\"expectedDisbursementDate\": \"+12345-1- 2\"\x7d"
    let entry := "[0, 1, \"0\"]"
    (Json.parse loan).bind ofJson? = some unusual ∧
      (∃ again, (Json.parse unusual.toJson.render).bind ofJson? = some again ∧ again.Alike unusual) ∧
      (Json.parse entry).bind TemplateEntry.ofJson? = some ⟨0, 1, .limit .zero⟩ ∧
      ∃ again, (Json.parse (TemplateEntry.toJson ⟨0, 1, .limit .zero⟩).render).bind TemplateEntry.ofJson? = some again ∧
        again.Alike ⟨0, 1, .limit .zero⟩ ∧ again.limit ≠ .unbounded := by
  intro loan entry
  have loanRead : (Json.parse loan).bind ofJson? = some unusual := by decide +kernel
  have entryRead : (Json.parse entry).bind TemplateEntry.ofJson? = some ⟨0, 1, .limit .zero⟩ := by decide +kernel
  obtain ⟨again, reread, like⟩ := Setup.values_survive.1 loan unusual loanRead
  obtain ⟨level, levelReread, levelLike⟩ := Setup.values_survive.2.2.2.1 entry _ entryRead
  have limited : level.limit ≠ .unbounded := by
    intro unbounded
    have alike : level.limit.Alike (.limit .zero) := levelLike.2
    rw [unbounded] at alike
    exact alike
  exact ⟨loanRead, ⟨again, reread, like⟩, entryRead, level, levelReread, levelLike, limited⟩

end Countersign
