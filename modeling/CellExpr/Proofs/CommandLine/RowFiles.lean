import CellExpr.Proofs.CommandLine.InputModes
import CellExpr.Proofs.Json.Documents
import CellExpr.Proofs.Text.Pieces

/-!
# Files of rows

What the command replies to a request for the rows of a file (`run_file`). If a line that is not blank is no object, it fails before
it prints anything. Otherwise it prints a result for each of these lines, in their order; in JSON the results are the lines of what
it prints. All rows have the columns of all lines. Workers, settings and time make no difference.
-/

namespace CellExpr.CommandLine

open CellExpr.Calendar

variable {s : Surroundings} {o : Options} {args : List String} {expr : Expr} {text path : String}
  {objects : List (List (String × Json))}

/-! ## Objects on lines -/

/-- A line that is no object is found, wherever it stands. -/
theorem exists_readObjects_error {ls : List (List Char)} (number : Nat)
    (h : ∃ line ∈ (ls.filter fun line => !(Text.trim line).isEmpty).map String.ofList, readObject? line = none) :
    ∃ n, readObjects number ls = .error n := by
  induction ls generalizing number with
  | nil =>
    obtain ⟨line, hline, _⟩ := h
    cases hline
  | cons line ls ih =>
    rw [readObjects]
    by_cases hblank : (Text.trim line).isEmpty = true
    · rw [if_pos hblank]
      refine ih (number + 1) ?_
      rwa [List.filter_cons_of_neg (by simp [hblank])] at h
    · rw [if_neg hblank]
      rw [List.filter_cons_of_pos (by simp [hblank]), List.map_cons] at h
      cases hobject : readObject? (String.ofList line) with
      | none => exact ⟨number, rfl⟩
      | some fields =>
        obtain ⟨n, hn⟩ := ih (number + 1) (((List.exists_mem_cons_iff ..).1 h).resolve_left (by simp [hobject]))
        exact ⟨n, by rw [hn]; rfl⟩

/-- The objects on lines that are all objects. -/
theorem exists_objects {ls : List String} (h : ∀ line ∈ ls, readObject? line ≠ none) :
    ∃ objects, ls.map readObject? = objects.map some ∧ ls.mapM readObject? = some objects := by
  induction ls with
  | nil => exact ⟨[], rfl, rfl⟩
  | cons line ls ih =>
    obtain ⟨hline, hls⟩ := List.forall_mem_cons.1 h
    obtain ⟨objects, hmap, hmapM⟩ := ih hls
    obtain ⟨fields, hfields⟩ := Option.ne_none_iff_exists'.1 hline
    refine ⟨fields :: objects, ?_, ?_⟩
    · rw [List.map_cons, List.map_cons, hfields, hmap]
    · rw [List.mapM_cons, hfields, hmapM]
      rfl

/-! ## Columns -/

/-- Names are added that are not there yet, each once. -/
theorem addNames_eq (columns names : List String) :
    addNames columns names = columns ++ (names.filter fun name => !columns.contains name).eraseDups := by
  induction names generalizing columns with
  | nil => exact (List.append_nil columns).symm
  | cons name names ih =>
    rw [addNames, List.foldl_cons]
    by_cases hknown : columns.contains name = true
    · rw [if_pos hknown, List.filter_cons_of_neg (by rw [hknown]; decide)]
      exact ih columns
    · have hnew := Bool.eq_false_iff.2 hknown
      have hothers : (names.filter fun other => !other == name && !columns.contains other) =
          names.filter fun other => !(columns ++ [name]).contains other := by
        refine List.filter_congr fun other _ => ?_
        by_cases hname : other = name <;> simp [hname]
      rw [if_neg hknown, List.filter_cons_of_pos (by rw [hnew]; decide), List.eraseDups_cons, List.filter_filter, hothers]
      exact (ih (columns ++ [name])).trans (List.append_cons ..).symm

theorem addNames_nil (names : List String) : addNames [] names = names.eraseDups := by
  have hall : (names.filter fun name => !([] : List String).contains name) = names := List.filter_eq_self.2 fun _ _ => rfl
  rw [addNames_eq, hall, List.nil_append]

theorem nodup_addNames {columns : List String} (h : columns.Nodup) (names : List String) : (addNames columns names).Nodup := by
  induction names generalizing columns with
  | nil => exact h
  | cons name names ih =>
    rw [addNames, List.foldl_cons]
    split
    · exact ih h
    · rename_i hnew
      refine ih (List.nodup_append.2 ⟨h, List.nodup_singleton name, ?_⟩)
      rintro known hknown _ hname rfl
      rw [List.mem_singleton.1 hname] at hknown
      exact hnew (List.contains_iff_mem.2 hknown)

/-- The columns of all lines are the names in them, each once, where it first occurs. -/
theorem foldl_addNames (objects : List (List (String × Json))) :
    objects.foldl (fun columns fields => addNames columns (fieldNames fields)) [] = (objects.flatMap fieldNames).eraseDups := by
  have hflat : objects.foldl (fun columns fields => addNames columns (fieldNames fields)) [] =
      addNames [] (objects.flatMap fieldNames) := (List.foldl_flatMap ..).symm
  rw [hflat, addNames_nil]

theorem nodup_columns (objects : List (List (String × Json))) : (objects.flatMap fieldNames).eraseDups.Nodup := by
  have hnodup : (addNames [] (objects.flatMap fieldNames)).Nodup := nodup_addNames List.nodup_nil _
  rwa [addNames_nil] at hnodup

/-- The rows of objects have the names of all their fields as columns. -/
theorem rowsOf_eq (objects : List (List (String × Json))) :
    rowsOf objects = objects.mapIdx fun i fields => Row.ofFields i (objects.flatMap fieldNames).eraseDups fields := by
  rw [rowsOf, foldl_addNames, List.mapIdx_eq_zipIdx_map]

theorem columns_ofFields (i : Nat) (columns : List String) (fields : List (String × Json)) :
    (Row.ofFields i columns fields).columns = columns := by
  rw [Row.ofFields, Row.columns, List.map_map]
  exact List.map_id columns

/-- The cell of a column is the value of the field with its name, or null if there is none. -/
theorem cell?_ofFields (i : Nat) {columns : List String} (fields : List (String × Json)) {name : String} (h : name ∈ columns) :
    (Row.ofFields i columns fields).cell? name = some (((fields.lookup name).map Value.ofJson).getD .null) := by
  rw [Row.ofFields, Row.cell?]
  induction columns with
  | nil => cases h
  | cons column columns ih =>
    rw [List.map_cons, List.lookup_cons]
    by_cases hname : name = column
    · rw [hname, beq_self_eq_true]
    · rw [beq_false_of_ne hname]
      exact ih (List.mem_of_ne_of_mem hname h)

/-! ## Lines of results -/

theorem piecesBetween_append {line : List Char} (h : '\n' ∉ line) (rest : List Char) :
    Text.piecesBetween (· == '\n') (line ++ '\n' :: rest) = line :: Text.piecesBetween (· == '\n') rest := by
  have hline : ∀ c ∈ line, (c == '\n') = false := fun c hc => beq_eq_false_iff_ne.2 fun heq => h (heq ▸ hc)
  rw [Text.piecesBetween_eq_splitOnP, List.splitOnP_append_cons_of_forall_mem hline _ rfl, Text.piecesBetween_eq_splitOnP]

/-- Lines without controls, each with its end after it, are the lines of the text that they make. -/
theorem lines_flatMap {ls : List (List Char)} (h : ∀ line ∈ ls, Json.Visible line) :
    lines (ls.flatMap fun line => line ++ ['\n']) = ls := by
  have hpieces : Text.piecesBetween (· == '\n') (ls.flatMap fun line => line ++ ['\n']) = ls ++ [[]] := by
    induction ls with
    | nil => rfl
    | cons line ls ih =>
      obtain ⟨hline, hls⟩ := List.forall_mem_cons.1 h
      rw [List.flatMap_cons, List.append_assoc, List.singleton_append, piecesBetween_append (hline.not_mem (by decide)), ih hls,
        List.cons_append]
  have hends : (ls.map fun line => if line.getLast? = some '\r' then line.dropLast else line) = ls := by
    refine (List.map_congr_left fun line hline => if_neg fun hlast => ?_).trans (List.map_id ls)
    exact (h line hline).not_mem (by decide) (List.mem_of_getLast? hlast)
  simp only [lines, hpieces, List.dropLast_concat, hends, List.getLast?_concat]
  exact List.append_nil ls

theorem visible_line (r : RowResult) : Json.Visible r.line.toList := Json.visible_render _

/-- The lines of what is printed for results in JSON are the results. -/
theorem lines_showResults (results : List RowResult) :
    lines (String.join (results.map (showResult true))).toList = results.map fun r => r.line.toList := by
  have htext : (String.join (results.map (showResult true))).toList =
      (results.map fun r => r.line.toList).flatMap fun line => line ++ ['\n'] := by
    rw [String.toList_join, List.flatMap_map, List.flatMap_map]
    refine List.flatMap_congr fun r _ => ?_
    exact String.toList_append ..
  rw [htext]
  refine lines_flatMap fun line hline => ?_
  obtain ⟨r, _, rfl⟩ := List.mem_map.1 hline
  exact visible_line r

/-! ## Replies -/

/-- The batch of an expression for rows that have the same columns: all of them are looked at from the column asked for, or else
from the first one. -/
def batchOf (now : Instant) (expr : Expr) (column : Option String) (columns : List String) : Batch :=
  { registry := .standard now, expr, column := (column.or columns.head?).getD "value" }

/-- The results of rows with the same columns are those of their batch. -/
theorem evaluateRows_eq {rows : List (Row Value)} {columns : List String} (hrows : fileRows s path = .ok rows)
    (hcolumns : ∀ r ∈ rows, r.columns = columns) :
    evaluateRows s o path expr =
      .ok (String.join ((rows.map fun r => ((batchOf s.now expr o.column columns).evaluate r).1).map (showResult o.outputJson))) := by
  cases rows with
  | nil =>
    rw [evaluateRows, hrows]
    rfl
  | cons first rest =>
    rw [evaluateRows_of_rows expr hrows, columnOf, hcolumns first List.mem_cons_self, List.map_map]
    rfl

/-- The command fails if a line of the file is no object. -/
theorem run_of_noObject (hread : Request.read args = .ok (.evaluate o)) (hparse : Expr.parse o.expression = .ok expr)
    (hrows : o.rows = some path) (hfile : s.file path = .ok text) (h : ∃ line ∈ textLines text, readObject? line = none) :
    ∃ n, run s args = .ofFailure (.invalidLine path n) := by
  obtain ⟨n, hn⟩ := exists_readObjects_error 1 h
  refine ⟨n, ?_⟩
  have hfailure : fileRows s path = .error (.invalidLine path n) := by
    rw [fileRows, hfile]
    dsimp only
    rw [readRows, hn]
    rfl
  rw [run_of_rows s hread hparse hrows, evaluateRows, hfailure]
  rfl

/-- The reply to a request for a file whose lines are objects. -/
theorem run_of_objects (hread : Request.read args = .ok (.evaluate o)) (hparse : Expr.parse o.expression = .ok expr)
    (hrows : o.rows = some path) (hfile : s.file path = .ok text) (hobjects : (textLines text).mapM readObject? = some objects) :
    let columns := (objects.flatMap fieldNames).eraseDups
    let rows := objects.mapIdx fun i fields => Row.ofFields i columns fields
    run s args = .printing (String.join
      ((rows.map fun r => ((batchOf s.now expr o.column columns).evaluate r).1).map (showResult o.outputJson))) := by
  intro columns rows
  have hall : fileRows s path = .ok rows := by
    rw [fileRows, hfile]
    dsimp only
    rw [readRows_of_mapM hobjects, rowsOf_eq]
    rfl
  have hcolumns : ∀ r ∈ rows, r.columns = columns := by
    intro r hr
    obtain ⟨i, _, rfl⟩ := List.mem_mapIdx.1 hr
    exact columns_ofFields ..
  rw [run_of_rows s hread hparse hrows, evaluateRows_eq hall hcolumns]
  rfl

/-- The batch of an expression that does not ask for the time has the same results at any. -/
theorem evaluate_batchOf (hnow : "now" ∉ expr.calledNames) (now now' : Instant) (column : Option String) (columns : List String)
    (r : Row Value) : (batchOf now' expr column columns).evaluate r = (batchOf now expr column columns).evaluate r := by
  have htrace : (batchOf now' expr column columns).trace r = (batchOf now expr column columns).trace r :=
    Expr.eval_standard_of_not_now hnow now now' _
  simp only [Batch.evaluate, htrace]
  rfl

/-- Workers that nobody interrupts have the results of all rows, in order, whichever of them moves when. -/
theorem results_run_batchOf (now : Instant) (expr : Expr) (column : Option String) (columns : List String) (rows : List (Row Value))
    (threads chunkSize : Nat) {numbers : List Nat}
    (hdone : ((Pool.new threads chunkSize rows false).run (batchOf now expr column columns) (numbers.map .worker)).isDone = true) :
    ((Pool.new threads chunkSize rows false).run (batchOf now expr column columns) (numbers.map .worker)).results =
      rows.map fun r => ((batchOf now expr column columns).evaluate r).1 := by
  have hcalm : ∀ r, ((batchOf now expr column columns).evaluate r).2 = false := fun r => by simp [Batch.evaluate, batchOf]
  have haccount := (Pool.account_new (batchOf now expr column columns) threads chunkSize rows false).run (numbers.map .worker)
  exact haccount.results_eq_map hdone (Pool.cancelled_run_workers hcalm rfl numbers)

/-- What the command replies to a request for the rows of a file, if the expression does not ask for the time.

* If a line that is not blank is no object, wherever it stands, the command fails and prints no result.
* Otherwise it ends well, whatever the values of the rows are. The rows are those of the lines that are not blank: the columns of
  each are the names in all these lines, each once, where it first occurs, and a name that its own line lacks stands for null. For
  each row in order there is a result with its number and its value; in JSON these are the lines of what is printed. Workers that
  nobody interrupts come to the same results, whichever of them moves when.
* Another call for the same expression, text and column, shown in the same way, prints the same and ends with the same code: on
  workers or not, whatever their number, the environment, the processors and the time are. -/
theorem run_file (hread : Request.read args = .ok (.evaluate o)) (hparse : Expr.parse o.expression = .ok expr)
    (hnow : "now" ∉ expr.calledNames) (hrows : o.rows = some path) (hfile : s.file path = .ok text) :
    ((∃ line ∈ textLines text, readObject? line = none) → (run s args).code ≠ 0 ∧ (run s args).output = "") ∧
      ((∀ line ∈ textLines text, readObject? line ≠ none) →
        ∃ objects : List (List (String × Json)), (textLines text).map readObject? = objects.map some ∧
          let columns := (objects.flatMap fieldNames).eraseDups
          let rows := objects.mapIdx fun i fields => Row.ofFields i columns fields
          let batch := batchOf s.now expr o.column columns
          let results := rows.map fun r => (batch.evaluate r).1
          (columns.Nodup ∧ ∀ name, name ∈ columns ↔ ∃ fields ∈ objects, name ∈ fieldNames fields) ∧
          (∀ (i : Nat) (fields : List (String × Json)), objects[i]? = some fields →
            ∃ r : Row Value, rows[i]? = some r ∧ results[i]? = some ⟨i, (batch.trace r).value⟩ ∧ r.index = i ∧ r.columns = columns ∧
              ∀ name ∈ columns, r.cell? name = some (((fields.lookup name).map Value.ofJson).getD .null)) ∧
          (run s args).code = 0 ∧ (run s args).output = String.join (results.map (showResult o.outputJson)) ∧
          (o.outputJson = true → lines (run s args).output.toList = results.map fun result => result.line.toList) ∧
          ∀ (threads chunkSize : Nat) (numbers : List Nat),
            ((Pool.new threads chunkSize rows false).run batch (numbers.map .worker)).isDone = true →
              ((Pool.new threads chunkSize rows false).run batch (numbers.map .worker)).results = results) ∧
      ∀ s' args' o' path', Request.read args' = .ok (.evaluate o') → o'.expression = o.expression → o'.column = o.column →
        o'.outputJson = o.outputJson → o'.rows = some path' → s'.file path' = .ok text →
        (run s' args').output = (run s args).output ∧ (run s' args').code = (run s args).code := by
  refine ⟨fun hnone => ?_, fun hall => ?_, fun s' args' o' path' hread' hexpression hcolumn hjson hrows' hfile' => ?_⟩
  · obtain ⟨n, hrun⟩ := run_of_noObject hread hparse hrows hfile hnone
    rw [hrun]
    exact ⟨Nat.one_ne_zero, rfl⟩
  · obtain ⟨objects, hmap, hmapM⟩ := exists_objects hall
    have hrun := run_of_objects hread hparse hrows hfile hmapM
    refine ⟨objects, hmap, ⟨?_, fun name => ?_⟩, fun i fields hi => ?_, ?_, ?_, fun houtput => ?_, fun threads chunkSize numbers => ?_⟩
    · exact nodup_columns objects
    · rw [List.mem_eraseDups, List.mem_flatMap]
    · have hrow : (objects.mapIdx fun i fields => Row.ofFields i (objects.flatMap fieldNames).eraseDups fields)[i]? =
          some (.ofFields i (objects.flatMap fieldNames).eraseDups fields) := by
        rw [List.getElem?_mapIdx, hi]
        rfl
      refine ⟨_, hrow, ?_, rfl, columns_ofFields .., fun name hname => cell?_ofFields i fields hname⟩
      rw [List.getElem?_map, hrow]
      rfl
    · rw [hrun]
      rfl
    · rw [hrun]
      rfl
    · rw [hrun, houtput]
      exact lines_showResults _
    · exact results_run_batchOf s.now expr o.column _ _ threads chunkSize
  · have hparse' : Expr.parse o'.expression = .ok expr := hexpression ▸ hparse
    by_cases hall : ∀ line ∈ textLines text, readObject? line ≠ none
    · obtain ⟨objects, _, hmapM⟩ := exists_objects hall
      rw [run_of_objects hread hparse hrows hfile hmapM, run_of_objects hread' hparse' hrows' hfile' hmapM, hcolumn, hjson]
      simp only [evaluate_batchOf hnow s.now s'.now, and_self]
    · have hnone : ∃ line ∈ textLines text, readObject? line = none := by
        simpa only [not_forall, not_not, exists_prop] using hall
      obtain ⟨n, hrun⟩ := run_of_noObject hread hparse hrows hfile hnone
      obtain ⟨n', hrun'⟩ := run_of_noObject hread' hparse' hrows' hfile' hnone
      rw [hrun, hrun']
      exact ⟨rfl, rfl⟩

/-- A computer on which every file has the same text. -/
def surroundingsOf (processors : Nat) (text : String) : Surroundings where
  now := ⟨0, 0, by decide⟩
  processors
  environment _ := none
  file _ := .ok text

/-- Divisions by the cells of two rows, the second of which fails, on one worker and on two; and by the cells of a file with a line
that is no object. -/
theorem run_file_divisions :
    let text := "\x7b\"b\":4\x7d\n\n\x7b\"b\":0,\"a\":1\x7d\n"
    let results := "\x7b\"row\":0,\"value\":2.0\x7d\n\x7b\"row\":1,\"value\":\x7b\"error\":\"division by zero\"\x7d\x7d\n"
    (run (surroundingsOf 1 text) ["--rows=rows.jsonl", "--output-json", "8 / value"]).output = results ∧
      (run (surroundingsOf 8 text) ["--rows=rows.jsonl", "--parallel", "--threads=2", "--output-json", "8 / value"]).output =
        results ∧
      (run (surroundingsOf 1 "\x7b\"b\":4\x7d\n[1]\n") ["--rows=rows.jsonl", "--output-json", "8 / value"]).output = "" := by
  intro text results
  let objects : List (List (String × Json)) := [[("b", .whole 4)], [("b", .whole 0), ("a", .whole 1)]]
  have hshown : ((Expr.parse "8 / value").map fun expr =>
      (expr.calledNames, String.join (((objects.mapIdx fun i fields => Row.ofFields i ["b", "a"] fields).map fun r =>
        ((batchOf ⟨0, 0, by decide⟩ expr none ["b", "a"]).evaluate r).1).map (showResult true)))) = .ok ([], results) := by
    decide +kernel
  cases hparse : Expr.parse "8 / value" with
  | error =>
    rw [hparse] at hshown
    cases hshown
  | ok expr =>
    rw [hparse] at hshown
    obtain ⟨hcalled, hresults⟩ := Prod.mk.inj (Except.ok.inj hshown)
    have hnow : "now" ∉ expr.calledNames := hcalled ▸ List.not_mem_nil
    have hread : Request.read ["--rows=rows.jsonl", "--output-json", "8 / value"] =
        .ok (.evaluate { expression := "8 / value", rows := some "rows.jsonl", outputJson := true }) := by decide
    have hread' : Request.read ["--rows=rows.jsonl", "--parallel", "--threads=2", "--output-json", "8 / value"] =
        .ok (.evaluate
          { expression := "8 / value", rows := some "rows.jsonl", parallel := true, threads := some 2, outputJson := true }) := by
      decide
    have hlines : textLines text = ["\x7b\"b\":4\x7d", "\x7b\"b\":0,\"a\":1\x7d"] := by decide +kernel
    have hobjects : (textLines text).map readObject? = objects.map some := by rw [hlines]; rfl
    have hbroken : ∃ line ∈ textLines "\x7b\"b\":4\x7d\n[1]\n", readObject? line = none :=
      ⟨"[1]", by decide +kernel, rfl⟩
    obtain ⟨_, hfile, hsame⟩ := @run_file (surroundingsOf 1 text) _ _ _ text _ hread hparse hnow rfl rfl
    obtain ⟨hfailure, _⟩ := @run_file (surroundingsOf 1 "\x7b\"b\":4\x7d\n[1]\n") _ _ _ _ _ hread hparse hnow rfl rfl
    have hall : ∀ line ∈ textLines text, readObject? line ≠ none := fun line hline hnone => by
      have hmem := List.mem_map_of_mem (f := readObject?) hline
      rw [hobjects, hnone] at hmem
      simp at hmem
    obtain ⟨objects', hmap, _, _, _, houtput, _⟩ := hfile hall
    obtain rfl : objects = objects' := List.map_injective_iff.2 (Option.some_injective _) (hobjects.symm.trans hmap)
    have hfirst := houtput.trans hresults
    obtain ⟨hsecond, _⟩ := hsame (surroundingsOf 8 text) _ _ _ hread' rfl rfl rfl rfl rfl
    exact ⟨hfirst, hsecond.trans hfirst, (hfailure hbroken).2⟩

end CellExpr.CommandLine
