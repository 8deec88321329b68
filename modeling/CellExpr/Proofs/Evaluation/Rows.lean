import CellExpr.Proofs.CommandLine.RowFiles
import CellExpr.Proofs.Json.Paths
import CellExpr.Proofs.Json.WrittenForms
import CellExpr.Proofs.Value.Equality

/-!
# Cells and documents of a row

In the scope of a cell there are several ways to a cell of the row: through `cells` and through `row.cells`, by a field, by a key in
brackets or by a call of `get`. All of them lead to the first cell with the name of the column, or to an error about fields if there is no
such column (`row_cells`). `value` and `cell.value` are the value of the current column, and null if there is none.

The documents of `cells` and of `row` have one entry for each name of a column, that of the last cell with the name, where a path to the
cell leads to the first one (`row_documents`). The two are the same if the name stands for one column only.
-/

namespace CellExpr

open Access

variable {now : Calendar.Instant} {s : Scope} {base : Expr} {o : HostObject Value} {name column : String} {r : Row Value} {v : Value}

/-! ## Objects -/

theorem Value.Asks.eq_string (h : v.Asks (.key name)) : v = .string name := by
  cases h
  rfl

/-- A step from an object to one of its fields comes to the field, or to an error about fields. -/
theorem exists_value_on {a : Access} (hbase : (base.eval (.standard now) s).value = .object o) (h : a.Takes now s (.key name)) :
    ∃ f : Fault, f.kind = .field ∧ ((a.on base).eval (.standard now) s).value = (o.field? name).getD (.error f.toError) := by
  cases a with
  | field key =>
    obtain rfl : name = key := PathStep.key.inj h
    refine ⟨.noField o.typeName name, rfl, ?_⟩
    show (base.eval (.standard now) s).value.field name = _
    rw [hbase]
    rfl
  | index position =>
    have hkey : (position.eval (.standard now) s).value = .string name := Value.Asks.eq_string h
    refine ⟨.noEntry o.typeName name, rfl, ?_⟩
    rw [on, Expr.eval, Traced.unlessError_of_not_error (hbase ▸ rfl)]
    show ((base.eval (.standard now) s).value.atPosition (position.eval (.standard now) s).value).toTraced.value = _
    rw [hbase, hkey]
    show (Outcome.toTraced (.orFault _ (o.field? name))).value = _
    cases o.field? name <;> rfl
  | get position =>
    have hkey : (position.eval (.standard now) s).value = .string name := Value.Asks.eq_string h
    refine ⟨.noField o.typeName name, rfl, ?_⟩
    show ((Registry.standard now).call "get" [(base.eval (.standard now) s).value, (position.eval (.standard now) s).value] s).value = _
    rw [hbase, hkey]
    show (Outcome.toTraced (.orFault _ (o.field? name))).value = _
    cases o.field? name <;> rfl

/-! ## Rows -/

namespace Row

variable {α : Type} {r : Row α} {v : α}

/-- A cell is the first one with the name of its column. -/
def IsFirst (r : Row α) (column : String) (v : α) : Prop := ∃ i : Nat, r.cells[i]? = some (column, v) ∧ ∀ j < i, r.columns[j]? ≠ some column

theorem cell?_eq_some_iff : r.cell? column = some v ↔ r.IsFirst column v := by
  unfold cell? IsFirst columns
  constructor
  · intro h
    obtain ⟨before, after, hcells, hbefore⟩ := List.lookup_eq_some_iff.1 h
    refine ⟨before.length, by rw [hcells, List.getElem?_append_right (Nat.le_refl _), Nat.sub_self]; rfl, fun j hj hcolumn => ?_⟩
    rw [hcells, List.map_append, List.getElem?_append_left (by rwa [List.length_map]), List.getElem?_map] at hcolumn
    obtain ⟨p, hp, rfl⟩ := Option.map_eq_some_iff.1 hcolumn
    simpa using hbefore p (List.mem_of_getElem? hp)
  · rintro ⟨i, hi, hfirst⟩
    obtain ⟨hlt, hget⟩ := List.getElem?_eq_some_iff.1 hi
    refine List.lookup_eq_some_iff.2 ⟨r.cells.take i, r.cells.drop (i + 1), ?_, fun p hp => ?_⟩
    · rw [← hget, List.getElem_cons_drop, List.take_append_drop]
    · obtain ⟨j, hj, hp⟩ := List.mem_take_iff_getElem.1 hp
      have hne := hfirst j (by omega)
      rw [List.getElem?_map, List.getElem?_eq_getElem (by omega), hp] at hne
      exact bne_iff_ne.2 fun heq => hne (congrArg some heq.symm)

theorem isSome_lookup_iff {named : List (String × α)} : (named.lookup name).isSome = true ↔ name ∈ named.map (·.1) := by
  rw [← Option.ne_none_iff_isSome, Ne, List.lookup_eq_none_iff, List.mem_map]
  constructor
  · intro h
    by_contra hnone
    exact h fun p hp => bne_iff_ne.2 fun heq => hnone ⟨p, hp, heq.symm⟩
  · rintro ⟨p, hp, rfl⟩ h
    exact absurd rfl (bne_iff_ne.1 (h p hp))

theorem exists_isFirst (h : column ∈ r.columns) : ∃ v, r.cell? column = some v ∧ r.IsFirst column v := by
  obtain ⟨v, hv⟩ := Option.isSome_iff_exists.1 (isSome_lookup_iff.2 h)
  exact ⟨v, hv, cell?_eq_some_iff.1 hv⟩

theorem cell?_eq_none (h : column ∉ r.columns) : r.cell? column = none := Option.not_isSome_iff_eq_none.1 (mt isSome_lookup_iff.1 h)

/-- A row has one cell for each of its columns, in their order. -/
structure HasCells (r : Row α) (columns : List String) (cellAt : Nat → String → α) : Prop where
  columns_eq : r.columns = columns
  cells : ∀ i column, columns[i]? = some column → r.cells[i]? = some (column, cellAt i column)

theorem hasCells_ofCells (index : Nat) (columns : List String) (cells : List α) (missing : α) :
    (ofCells index columns cells missing).HasCells columns fun i _ => cells[i]?.getD missing where
  columns_eq := by
    rw [Row.columns, ofCells, List.map_map]
    exact List.zipIdx_map_fst 0 columns
  cells i column h := by
    simp [ofCells, h, List.getD_eq_getElem?_getD]

end Row

theorem Row.hasCells_ofFields (index : Nat) (columns : List String) (fields : List (String × Json)) :
    (Row.ofFields index columns fields).HasCells columns fun _ column => ((fields.lookup column).map Value.ofJson).getD .null where
  columns_eq := CommandLine.columns_ofFields index columns fields
  cells i column h := by
    simp [Row.ofFields, h]

/-! ## The scope of a cell -/

/-- Expressions for the cell of a column. -/
def cellPaths (column : String) : List Expr :=
  [.field (.var "cells") column, .index (.var "cells") (.literal (.string column)),
    .call "get" [.var "cells", .literal (.string column)], .field (.field (.var "row") "cells") column,
    .index (.field (.var "row") "cells") (.literal (.string column))]

/-- A path takes a step with the name of the column from the cells of the row. -/
theorem exists_access_of_mem_cellPaths (now : Calendar.Instant) (r : Row Value) (column : String) {e : Expr} {c : String}
    (he : e ∈ cellPaths c) :
    ∃ (a : Access) (base : Expr), e = a.on base ∧ a.Takes now (.ofCell r column) (.key c) ∧
      (base.eval (.standard now) (.ofCell r column)).value = .object (.cells r) := by
  simp only [cellPaths, List.mem_cons, List.not_mem_nil, or_false] at he
  rcases he with rfl | rfl | rfl | rfl | rfl
  · exact ⟨.field c, .var "cells", rfl, rfl, rfl⟩
  · exact ⟨.index (.literal (.string c)), .var "cells", rfl, .key c, rfl⟩
  · exact ⟨.get (.literal (.string c)), .var "cells", rfl, .key c, rfl⟩
  · exact ⟨.field c, .field (.var "row") "cells", rfl, rfl, rfl⟩
  · exact ⟨.index (.literal (.string c)), .field (.var "row") "cells", rfl, .key c, rfl⟩

/-- An expression comes to a cell with the value. -/
structure LeadsTo (now : Calendar.Instant) (s : Scope) (e : Expr) (v : Value) : Prop where
  cell : (e.eval (.standard now) s).value = .object (.cell v)
  value : ((Expr.field e "value").eval (.standard now) s).value = v

/-- An expression comes to an error about fields, and so does what asks it for a value. -/
def LeadsNowhere (now : Calendar.Instant) (s : Scope) (e : Expr) : Prop :=
  ∃ err : EvalError, err.kind = .field ∧ (e.eval (.standard now) s).value = .error err ∧
    ((Expr.field e "value").eval (.standard now) s).value = .error err

theorem leadsTo_of_cell? {e : Expr} {c : String} (he : e ∈ cellPaths c) (h : r.cell? c = some v) :
    LeadsTo now (.ofCell r column) e v := by
  obtain ⟨a, base, rfl, htakes, hbase⟩ := exists_access_of_mem_cellPaths now r column he
  obtain ⟨f, -, hvalue⟩ := exists_value_on hbase htakes
  have hcell : ((a.on base).eval (.standard now) (.ofCell r column)).value = .object (.cell v) := by
    rw [hvalue, HostObject.field?, h]
    rfl
  refine ⟨hcell, ?_⟩
  show ((a.on base).eval (.standard now) (.ofCell r column)).value.field "value" = v
  rw [hcell]
  rfl

theorem leadsNowhere_of_cell? {e : Expr} {c : String} (he : e ∈ cellPaths c) (h : r.cell? c = none) :
    LeadsNowhere now (.ofCell r column) e := by
  obtain ⟨a, base, rfl, htakes, hbase⟩ := exists_access_of_mem_cellPaths now r column he
  obtain ⟨f, hkind, hvalue⟩ := exists_value_on hbase htakes
  have herror : ((a.on base).eval (.standard now) (.ofCell r column)).value = .error f.toError := by
    rw [hvalue, HostObject.field?, h]
    rfl
  refine ⟨f.toError, hkind, herror, ?_⟩
  show ((a.on base).eval (.standard now) (.ofCell r column)).value.field "value" = .error f.toError
  rw [herror]
  rfl

/-- The value of the current cell, as the variable and as the field of the cell. -/
theorem value_current (now : Calendar.Instant) (r : Row Value) (column : String) :
    ∀ e ∈ [Expr.var "value", .field (.var "cell") "value"],
      (e.eval (.standard now) (.ofCell r column)).value = (r.cell? column).getD .null := by
  intro e he
  rcases List.mem_pair.1 he with rfl | rfl <;> rfl

/-- In the scope of a cell all paths to a column of the row lead to the first cell with its name, whose value is also `value` and
`cell.value` if the column is the current one. All paths to another name come to an error about fields, but `value` of a current column
that the row does not have is null. `row.columnNames` has the columns in order. A row that is made of columns and cells, or of the
fields of an object, has one cell for each column, and null where there is none for it. -/
theorem row_cells (now : Calendar.Instant) (r : Row Value) (column : String) :
    (∀ c ∈ r.columns, ∃ v, r.IsFirst c v ∧ (∀ e ∈ cellPaths c, LeadsTo now (.ofCell r column) e v) ∧
      (c = column → ∀ e ∈ [Expr.var "value", .field (.var "cell") "value"], (e.eval (.standard now) (.ofCell r column)).value = v)) ∧
      (∀ c ∉ r.columns, (∀ e ∈ cellPaths c, LeadsNowhere now (.ofCell r column) e) ∧
        (c = column → ∀ e ∈ [Expr.var "value", .field (.var "cell") "value"],
          (e.eval (.standard now) (.ofCell r column)).value = .null)) ∧
      ((Expr.field (.var "row") "columnNames").eval (.standard now) (.ofCell r column)).value = .array (r.columns.map .string) ∧
      (∀ index columns (cells : List Value),
        (Row.ofCells index columns cells .null).HasCells columns fun i _ => cells[i]?.getD .null) ∧
      ∀ index columns fields,
        (Row.ofFields index columns fields).HasCells columns fun _ c => ((fields.lookup c).map Value.ofJson).getD .null := by
  refine ⟨fun c hc => ?_, fun c hc => ?_, rfl, fun index columns cells => Row.hasCells_ofCells index columns cells .null,
    Row.hasCells_ofFields⟩
  · obtain ⟨v, hcell, hfirst⟩ := Row.exists_isFirst hc
    refine ⟨v, hfirst, fun e he => leadsTo_of_cell? he hcell, ?_⟩
    rintro rfl e he
    rw [value_current now r c e he, hcell]
    rfl
  · have hcell := Row.cell?_eq_none hc
    refine ⟨fun e he => leadsNowhere_of_cell? he hcell, ?_⟩
    rintro rfl e he
    rw [value_current now r c e he, hcell]
    rfl

/-- Of two columns with one name the first one counts, also if its cell holds an error. -/
example (now : Calendar.Instant) (e : EvalError) :
    ((Expr.field (.field (.var "cells") "a") "value").eval (.standard now) (.ofCell (.ofCells 0 ["a", "a"] [.error e, .null] .null) "a")).value =
      .error e := rfl

end CellExpr

namespace CellExpr

open Access

variable {now : Calendar.Instant} {s : Scope} {r : Row Value} {column : String} {v : Value} {e : Expr}

/-! ## Fields that are set one after the other -/

theorem lookup_cons_ite {α : Type} (key : String) (value : α) (named : List (String × α)) (name : String) :
    ((key, value) :: named).lookup name = if name = key then some value else named.lookup name := by
  rw [List.lookup_cons]
  by_cases h : name = key
  · rw [if_pos h, beq_iff_eq.2 h]
  · rw [if_neg h, beq_false_of_ne h]

namespace Json

theorem lookup_setField (key : String) (value : Json) (fields : List (String × Json)) (name : String) :
    (setField key value fields).lookup name = if name = key then some value else fields.lookup name := by
  induction fields with
  | nil => exact lookup_cons_ite key value [] name
  | cons field fields ih =>
    obtain ⟨k, w⟩ := field
    rw [setField]
    by_cases hk : k = key
    · rw [if_pos hk, lookup_cons_ite, lookup_cons_ite, hk]
      split <;> rfl
    · rw [if_neg hk, lookup_cons_ite, lookup_cons_ite, ih]
      split
      · rename_i h
        rw [if_neg (h ▸ hk)]
      · rfl

/-- Of the values that are set under a name the last one stays. -/
theorem lookup_ofFields (named : List (String × Json)) (name : String) : (ofFields named).lookup name = named.reverse.lookup name := by
  induction named using List.reverseRecOn with
  | nil => rfl
  | append_singleton named last ih =>
    rw [List.reverse_append, List.reverse_singleton, List.singleton_append, lookup_cons_ite, ← ih, ofFields, List.foldl_append, ← ofFields]
    exact lookup_setField last.1 last.2 _ name

theorem nodup_ofFields (named : List (String × Json)) : ((ofFields named).map (·.1)).Nodup := by
  induction named using List.reverseRecOn with
  | nil => exact List.nodup_nil
  | append_singleton named last ih =>
    rw [ofFields, List.foldl_append, ← ofFields]
    exact nodup_setField last.1 last.2 ih

end Json

/-! ## The last cell -/

namespace Row

variable {α β : Type} {r : Row α}

/-- The cell of the last column with a name. -/
def lastCell? (r : Row α) (column : String) : Option α := r.cells.reverse.lookup column

/-- The only value of a name is the first one and the last one. -/
theorem lookup_reverse {named : List (String × α)} {name : String} (h : (named.map (·.1)).count name ≤ 1) :
    named.reverse.lookup name = named.lookup name := by
  induction named with
  | nil => rfl
  | cons entry named ih =>
    obtain ⟨key, value⟩ := entry
    rw [List.map_cons, List.count_cons] at h
    rw [List.reverse_cons, List.lookup_append, lookup_cons_ite, lookup_cons_ite]
    by_cases hkey : name = key
    · have hnone : named.reverse.lookup name = none := by
        rw [← Option.not_isSome_iff_eq_none, isSome_lookup_iff, List.map_reverse, List.mem_reverse, ← List.count_eq_zero]
        rw [if_pos (beq_iff_eq.2 hkey.symm)] at h
        omega
      rw [hnone, if_pos hkey, if_pos hkey]
      rfl
    · rw [if_neg hkey, if_neg hkey, ih (by omega)]
      exact Option.or_none

theorem lookup_map (f : α → β) (named : List (String × α)) (name : String) :
    (named.map fun p => (p.1, f p.2)).lookup name = (named.lookup name).map f := by
  induction named with
  | nil => rfl
  | cons entry named ih =>
    obtain ⟨key, value⟩ := entry
    rw [List.map_cons, lookup_cons_ite, lookup_cons_ite, ih]
    split <;> rfl

/-- The last cell with the name of a column is the first one if there is no other. -/
theorem lastCell?_eq_cell? (h : r.columns.count column ≤ 1) : r.lastCell? column = r.cell? column := lookup_reverse h

end Row

/-! ## Entries -/

/-- The fields of a document are the entries of a row: one for each name of a column, that of the last cell with the name, and no
others. -/
structure AreEntries (r : Row Value) (entry : Value → Json) (fields : List (String × Json)) : Prop where
  nodup : (fields.map (·.1)).Nodup
  names : ∀ c, c ∈ fields.map (·.1) ↔ c ∈ r.columns
  lookup : ∀ c, fields.lookup c = (r.lastCell? c).map entry

theorem areEntries_ofFields (r : Row Value) (entry : Value → Json) :
    AreEntries r entry (Json.ofFields (r.cells.map fun cell => (cell.1, entry cell.2))) := by
  have hlookup (c : String) : (Json.ofFields (r.cells.map fun cell => (cell.1, entry cell.2))).lookup c = (r.lastCell? c).map entry := by
    rw [Json.lookup_ofFields, ← List.map_reverse, Row.lookup_map]
    rfl
  refine ⟨Json.nodup_ofFields _, fun c => ?_, hlookup⟩
  rw [← Row.isSome_lookup_iff, hlookup, Option.isSome_map, Row.lastCell?, Row.isSome_lookup_iff, List.map_reverse, List.mem_reverse,
    Row.columns]

/-- The entry of a name that stands for one column is that of the cell to which all paths lead. -/
theorem AreEntries.lookup_of_leadsTo {entry : Value → Json} {fields : List (String × Json)} (h : AreEntries r entry fields) {c : String}
    (hc : r.columns.count c = 1) :
    ∃ v, (∀ e ∈ cellPaths c, LeadsTo now (.ofCell r column) e v) ∧ r.cell? c = some v ∧ fields.lookup c = some (entry v) := by
  obtain ⟨v, hcell, -⟩ := Row.exists_isFirst (List.count_pos_iff.1 (show 0 < r.columns.count c by omega))
  refine ⟨v, fun e he => leadsTo_of_cell? he hcell, hcell, ?_⟩
  rw [h.lookup, Row.lastCell?_eq_cell? (Nat.le_of_eq hc), hcell]
  rfl

/-! ## The documents -/

theorem toJson_cells (r : Row Value) : (Value.object (.cells r)).toJson =
    .object (Json.ofFields (r.cells.map fun cell => (cell.1, .object [("value", cell.2.toJson)]))) := by
  obtain ⟨index, starred, flagged, cells⟩ := r
  rw [Value.toJson, Value.cellsToJson_eq_map]

theorem toJson_row (r : Row Value) : (Value.object (.row r)).toJson =
    .object [("index", .whole r.index), ("starred", .boolean r.starred), ("flagged", .boolean r.flagged),
      ("cells", .object (Json.ofFields (r.cells.map fun cell => (cell.1, cell.2.toJson))))] := by
  obtain ⟨index, starred, flagged, cells⟩ := r
  rw [Value.toJson, Value.valuesToJson_eq_map]

/-- `jsonize` and `toString` of an object have the text of its document. -/
theorem value_document {o : HostObject Value} (h : (e.eval (.standard now) s).value = .object o) :
    ∀ name ∈ ["jsonize", "toString"], ((Expr.call name [e]).eval (.standard now) s).value = .string (Value.object o).toJson.render := by
  intro name hname
  rw [Value.value_call_single, h]
  rcases List.mem_pair.1 hname with rfl | rfl
  · exact Value.call_jsonize now s rfl
  · exact Value.call_toString now s rfl

/-- What `jsonize` and `toString` show of `cells` and of `row` is a document with one entry for each name of a column: an object with the
value of the last cell with this name, or this value. If the name stands for one column, this is the value to which all paths to the cell
lead. -/
theorem row_documents (now : Calendar.Instant) (r : Row Value) (column : String) :
    (∃ fields, AreEntries r (fun v => .object [("value", v.toJson)]) fields ∧ ∀ name ∈ ["jsonize", "toString"],
      ((Expr.call name [.var "cells"]).eval (.standard now) (.ofCell r column)).value = .string (Json.object fields).render) ∧
      (∃ fields, AreEntries r Value.toJson fields ∧ ∀ name ∈ ["jsonize", "toString"],
        ((Expr.call name [.var "row"]).eval (.standard now) (.ofCell r column)).value =
          .string (Json.object [("index", .whole r.index), ("starred", .boolean r.starred), ("flagged", .boolean r.flagged),
            ("cells", .object fields)]).render) ∧
      ∀ entry fields c, AreEntries r entry fields → r.columns.count c = 1 →
        ∃ v, (∀ e ∈ cellPaths c, LeadsTo now (.ofCell r column) e v) ∧ r.cell? c = some v ∧ fields.lookup c = some (entry v) := by
  refine ⟨⟨_, areEntries_ofFields r _, fun name hname => ?_⟩, ⟨_, areEntries_ofFields r _, fun name hname => ?_⟩,
    fun entry fields c h hc => h.lookup_of_leadsTo hc⟩
  · rw [← toJson_cells]
    exact value_document rfl name hname
  · rw [← toJson_row]
    exact value_document rfl name hname

/-- A row with two columns of one name. -/
def repeatedColumn : Row Value := .ofCells 0 ["a", "a"] [.string "x", .string "y"] .null

/-- The document of the cells shows the last one of two cells with one name, and the path leads to the first one. -/
theorem document_repeatedColumn :
    ((Expr.call "jsonize" [.var "cells"]).eval (.standard ⟨0, 0, by decide⟩) (.ofCell repeatedColumn "a")).value =
        .string "\x7b\"a\":\x7b\"value\":\"y\"\x7d\x7d" ∧
      ((Expr.field (.field (.var "cells") "a") "value").eval (.standard ⟨0, 0, by decide⟩) (.ofCell repeatedColumn "a")).value =
        .string "x" := by
  refine ⟨?_, rfl⟩
  rw [value_document rfl "jsonize" (List.mem_cons_self ..)]
  exact congrArg Value.string (by decide +kernel)

end CellExpr
