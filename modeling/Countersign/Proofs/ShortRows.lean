import Countersign.Request

/-!
Rows that stop early. A field that is left out at the end of a row counts as an empty one under each
column that is known; but a column that is unknown has to have its field, though nobody asks what is
in it, and a row that stops before it makes no command.
-/

namespace Countersign

/-! Empty fields at the end of a record. -/

namespace Csv

/-- Nothing is left of the field without the blanks at its ends. -/
def Void (field : List UInt8) : Prop := (texts [field]).toOption = some [""]

instance (field : List UInt8) : Decidable (Void field) := inferInstanceAs (Decidable ((texts [field]).toOption = _))

theorem textsFrom_cons_of_void {field : List UInt8} (void : Void field) (number : Nat) (rest : List (List UInt8)) :
    textsFrom number (field :: rest) = (textsFrom (number + 1) rest).map ("" :: ·) := by
  unfold Void texts at void
  simp only [textsFrom] at void ⊢
  cases decoded : Utf8.decode (trimBytes field) with
  | error good => simp [decoded, Except.toOption] at void
  | ok chars =>
    rw [decoded] at void
    have text : String.ofList (Blank.trim chars) = "" := by
      simpa [bind, Except.bind, Except.toOption] using void
    dsimp only
    rw [text]
    cases textsFrom (number + 1) rest <;> rfl

theorem textsFrom_of_void {cut : List (List UInt8)} (void : ∀ field ∈ cut, Void field) (number : Nat) :
    textsFrom number cut = .ok (List.replicate cut.length "") := by
  induction cut generalizing number with
  | nil => rfl
  | cons field rest ih =>
    obtain ⟨first, later⟩ := List.forall_mem_cons.mp void
    rw [textsFrom_cons_of_void first, ih later]
    rfl

theorem textsFrom_append_void {cut : List (List UInt8)} (void : ∀ field ∈ cut, Void field) (number : Nat)
    (kept : List (List UInt8)) :
    (textsFrom number (kept ++ cut)).toOption =
      (textsFrom number kept).toOption.map (· ++ List.replicate cut.length "") := by
  induction kept generalizing number with
  | nil => simp [textsFrom, textsFrom_of_void void, Except.toOption]
  | cons field rest ih =>
    simp only [List.cons_append, textsFrom]
    cases Utf8.decode (trimBytes field) with
    | error good => rfl
    | ok chars =>
      have later := ih (number + 1)
      dsimp only
      cases long : textsFrom (number + 1) (rest ++ cut) <;> cases short : textsFrom (number + 1) rest <;>
        simp_all [bind, Except.bind, Except.toOption]

theorem length_of_textsFrom {fields : List (List UInt8)} {number : Nat} {found : List String}
    (read : textsFrom number fields = .ok found) : found.length = fields.length := by
  induction fields generalizing number found with
  | nil => cases read; rfl
  | cons field rest ih =>
    simp only [textsFrom] at read
    cases decoded : Utf8.decode (trimBytes field) with
    | error good => simp [decoded] at read
    | ok chars =>
      cases later : textsFrom (number + 1) rest with
      | error fault => simp [decoded, later, bind, Except.bind] at read
      | ok others =>
        simp only [decoded, later, bind, Except.bind, Except.ok.injEq] at read
        simp [← read, ih later]

end Csv

namespace Request

open Csv (Source Item)

def known (names : List String) : Bool := names.all fun name => (Column.ofName? name).isSome

theorem put_void (row : Row) (index : Nat) (column : Column) :
    (row.put index none column).toOption = (row.put index (some "") column).toOption := by
  cases column <;> rfl

/-- A row that stops makes what it would make with empty fields, unless one of them is for a column
that is unknown: then it makes nothing. -/
theorem readNamed_void (row : Row) (seen : List Column) (index : Nat) (names : List String) (count : Nat) :
    (readNamed row seen index names []).toOption =
      if known (names.take count) then (readNamed row seen index names (List.replicate count "")).toOption else none := by
  induction names generalizing row seen index count with
  | nil => simp [known, readNamed]
  | cons name names ih =>
    cases count with
    | zero => simp [known]
    | succ count =>
      cases is : Column.ofName? name with
      | none => simp [readNamed, known, is, Except.toOption]
      | some column =>
        have same := put_void row index column
        have tail : known ((name :: names).take (count + 1)) = known (names.take count) := by simp [known, is]
        rw [tail]
        simp only [readNamed, is, List.replicate_succ, List.head?_nil, List.head?_cons, List.tail_nil, List.tail_cons]
        split
        · simp [Except.toOption]
        · cases short : row.put index none column <;> cases long : row.put index (some "") column <;>
            rw [short, long] at same <;> simp only [Except.toOption, Option.some.injEq, reduceCtorEq] at same
          · simp [bind, Except.bind, Except.toOption]
          · subst same
            exact ih ..

theorem readNamed_append_void (row : Row) (seen : List Column) (index : Nat) (names kept : List String) (count : Nat) :
    (readNamed row seen index names kept).toOption =
      if known ((names.drop kept.length).take count) then
        (readNamed row seen index names (kept ++ List.replicate count "")).toOption
      else none := by
  induction names generalizing row seen index kept with
  | nil => simp [known, readNamed]
  | cons name names ih =>
    cases kept with
    | nil => simpa using readNamed_void row seen index (name :: names) count
    | cons field rest =>
      simp only [readNamed, List.cons_append, List.length_cons, List.drop_succ_cons, List.head?_cons, List.tail_cons,
        List.isEmpty_cons]
      cases Column.ofName? name with
      | none => exact ih ..
      | some column =>
        dsimp only
        split
        · simp [Except.toOption]
        · cases row.put index (some field) column with
          | error fault => simp [bind, Except.bind, Except.toOption]
          | ok row => exact ih ..

theorem toOption_ofItem_record (header : Option (List String)) (position : Csv.Position) (fields : List (List UInt8)) :
    (ofItem header (.record position fields)).toOption =
      (Csv.texts fields).toOption.bind fun texts =>
        (readRow header texts).toOption.bind fun row =>
          row.action.bind fun action => (row.toCommand action).toOption := by
  unfold ofItem
  dsimp only
  cases Csv.texts fields with
  | error fault => rfl
  | ok texts =>
    dsimp only
    cases read : readRow header texts with
    | error fault => simp [Except.toOption, read]
    | ok row => cases is : row.action <;> simp [Except.toOption, read, is]

theorem ofItem_short {cut : List (List UInt8)} (void : ∀ field ∈ cut, Csv.Void field) (names : List String)
    (kept : List (List UInt8)) (position position' : Csv.Position) :
    (ofItem (some names) (.record position' kept)).toOption =
      if known ((names.drop kept.length).take cut.length) then
        (ofItem (some names) (.record position (kept ++ cut))).toOption
      else none := by
  have long : (Csv.texts (kept ++ cut)).toOption =
      (Csv.texts kept).toOption.map (· ++ List.replicate cut.length "") := Csv.textsFrom_append_void void 0 kept
  rw [toOption_ofItem_record, toOption_ofItem_record, long]
  cases texts : Csv.texts kept with
  | error fault => simp [Except.toOption]
  | ok found =>
    have same := readNamed_append_void .empty [] 0 names found cut.length
    rw [Csv.length_of_textsFrom texts] at same
    simp only [Except.toOption, Option.map_some, Option.bind_some, readRow] at same ⊢
    rw [same]
    split <;> simp

/-- A row that leaves out void fields at its end yields the command of the full row, or no command
like it, as long as the columns of these fields are known; where one of them is unknown, it yields no
command at all. The two rows may stand anywhere in two files with the same columns. -/
theorem short_row_command {full short : Source} {names : List String} {i j : Nat} {position position' : Csv.Position}
    {kept cut : List (List UInt8)} (header : full.sheet.header = some names)
    (header' : short.sheet.header = some names)
    (long : full.sheet.body[i]? = some (.record position (kept ++ cut)))
    (shorter : short.sheet.body[j]? = some (.record position' kept)) (void : ∀ field ∈ cut, Csv.Void field) :
    ∃ whole part, (all full)[i]? = some whole ∧ (all short)[j]? = some part ∧
      part.toOption = if known ((names.drop kept.length).take cut.length) then whole.toOption else none := by
  refine ⟨_, _, ?_, ?_, ofItem_short void names kept position position'⟩
  · simp [all, header, long]
  · simp [all, header', shorter]

/-- An empty step and an empty note, one a blank and one in quotes, are left out of a row. -/
theorem build_row_shortened :
    let columns := "action,loan,step,note\n"
    let full : Source := ⟨Utf8.encode (columns ++ "build, 1, ,\"\"\n"), false⟩
    let short : Source := ⟨Utf8.encode (columns ++ "scan\nbuild, 1"), false⟩
    let kept := [Utf8.encode "build", Utf8.encode " 1"]
    let cut := [Utf8.encode " ", []]
    full.sheet.body[0]? = some (.record ⟨1, 2, 22⟩ (kept ++ cut)) ∧
      short.sheet.body[1]? = some (.record ⟨2, 3, 27⟩ kept) ∧ (∀ field ∈ cut, Csv.Void field) ∧
      ∃ whole part, (all full)[0]? = some whole ∧ (all short)[1]? = some part ∧ part.toOption = whole.toOption := by
  intro columns full short kept cut
  have header : full.sheet.header = some ["action", "loan", "step", "note"] := by decide +kernel
  have header' : short.sheet.header = some ["action", "loan", "step", "note"] := by decide +kernel
  have long : full.sheet.body[0]? = some (.record ⟨1, 2, 22⟩ (kept ++ cut)) := by decide +kernel
  have shorter : short.sheet.body[1]? = some (.record ⟨2, 3, 27⟩ kept) := by decide +kernel
  have void : ∀ field ∈ cut, Csv.Void field := by decide +kernel
  obtain ⟨whole, part, yields, yields', same⟩ := short_row_command header header' long shorter void
  exact ⟨long, shorter, void, whole, part, yields, yields', same.trans (if_pos (by decide +kernel))⟩

/-- Under a column that is unknown an empty field may not be left out. -/
theorem remark_not_left_out :
    let file : Source := ⟨Utf8.encode "action,remark\nscan,\nscan\n", false⟩
    file.sheet.header = some ["action", "remark"] ∧
      file.sheet.body = [.record ⟨1, 2, 14⟩ [Utf8.encode "scan", []], .record ⟨2, 3, 20⟩ [Utf8.encode "scan"]] ∧
      (all file).map Except.toOption = [some .scan, none] := by
  intro file
  exact ⟨by decide +kernel, by decide +kernel, by decide +kernel⟩

end Request

end Countersign
