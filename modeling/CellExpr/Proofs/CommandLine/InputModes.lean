import CellExpr.CommandLine.Command
import CellExpr.Proofs.Batch.SingleWorker
import CellExpr.Proofs.Evaluation.CalledNames
import CellExpr.Proofs.Evaluation.FreeVariables
import CellExpr.Proofs.Json.Documents

/-!
# Ways to give a row

What the command replies to a request in terms of the values of its rows: nobody cancels the batches of the command, so that
they have the results of all rows in order, on one worker or many (`resultsOf_eq_map`); and an expression that does not ask for
the time has the same value at any (`eval_standard_of_not_now`).

A row can be given as the text of an object, as the only line of a file that is not blank, or as one cell. The command builds the
row and picks the column in another way each time, and comes to the same value and shows the same of it (`run_of_same_row`).
-/

namespace CellExpr

open CellExpr.Calendar

variable {b : Batch} {rows : List (Row Value)}

/-! ## Batches that nobody cancels -/

namespace Pool

variable {p : Pool}

/-- Workers do not cancel a batch whose rows do not. -/
theorem cancelled_run_workers (hcalm : ∀ r, (b.evaluate r).2 = false) (hrunning : p.cancelled = false) (numbers : List Nat) :
    (p.run b (numbers.map .worker)).cancelled = false := by
  rw [Bool.eq_false_iff]
  intro hcancelled
  obtain ⟨before, m, after, hmoves, hbefore, hcancels⟩ := exists_first_cancel hrunning hcancelled
  obtain ⟨number, _, rfl⟩ := List.mem_map.1 (hmoves ▸ List.mem_append_right before List.mem_cons_self)
  obtain ⟨_, r, _, _, hr, _⟩ := (step_step b (p.run b before) (.worker number)).cancels hbefore hcancels
  rw [hcalm r] at hr
  cases hr

end Pool

/-- On any number of workers a batch whose rows do not cancel it has the results of all of them, in order. -/
theorem Batch.results_runParallel_of_calm (hcalm : ∀ r, (b.evaluate r).2 = false) (threads chunkSize : Nat) :
    (b.runParallel threads chunkSize false rows).results = rows.map fun r => (b.evaluate r).1 := by
  obtain ⟨numbers, hrun, hdone⟩ := Pool.exists_runParallel_eq_run_workers b threads chunkSize false rows
  have haccount := (Pool.account_new b threads chunkSize rows false).run (numbers.map .worker)
  rw [hrun]
  exact haccount.results_eq_map hdone (Pool.cancelled_run_workers hcalm rfl numbers)

/-! ## Time -/

theorem Registry.lookup?_without (r : Registry) {name other : String} (h : other ≠ name) :
    (r.without name).lookup? other = r.lookup? other := by
  simp only [Registry.without, Registry.lookup?, List.find?_filter]
  congr 1
  funext f
  by_cases hf : f.name = other
  · simp [hf, h]
  · simp [hf]

/-- An expression that does not ask for the time has the same value at any. -/
theorem Expr.eval_standard_of_not_now {e : Expr} (h : "now" ∉ e.calledNames) (now now' : Instant) (s : Scope) :
    e.eval (.standard now') s = e.eval (.standard now) s := by
  refine Expr.eval_congr_lookup? (fun name hname => ?_) s
  have hne : name ≠ "now" := fun heq => h (heq ▸ hname)
  rw [← Registry.lookup?_without _ hne, Registry.standard_without_now now now', Registry.lookup?_without _ hne]

namespace CommandLine

variable {s : Surroundings} {o : Options} {args : List String} {expr : Expr}

/-! ## Requests -/

theorem exists_of_bind_eq_evaluate {α : Type} {x : Except UsageError α} {f : α → Except UsageError Request}
    (h : x.bind f = .ok (.evaluate o)) : ∃ a, f a = .ok (.evaluate o) := by
  cases x with
  | error e => cases h
  | ok a => exact ⟨a, h⟩

theorem exists_finish_of_ofPlain {d : Draft} (h : Request.ofPlain d args = .ok (.evaluate o)) :
    ∃ d : Draft, d.finish = .ok (.evaluate o) := by
  induction args generalizing d with
  | nil => exact ⟨d, h⟩
  | cons text args ih =>
    obtain ⟨d', h'⟩ := exists_of_bind_eq_evaluate h
    exact ih h'

/-- What is asked for is evaluated after all arguments have been read. -/
theorem exists_finish_of_ofArgs {d : Draft} (h : Request.ofArgs d args = .ok (.evaluate o)) :
    ∃ d : Draft, d.finish = .ok (.evaluate o) := by
  revert h
  fun_induction Request.ofArgs d args <;> intro h
  case case1 d => exact ⟨d, h⟩
  case case3 => exact exists_finish_of_ofPlain h
  case case2 ih | case10 ih | case12 ih | case15 ih =>
    obtain ⟨d', h'⟩ := exists_of_bind_eq_evaluate h
    exact ih d' h'
  all_goals cases h

/-- Of the cell, the row and the file with rows a request has one at most. -/
theorem exclusive_of_read (h : Request.read args = .ok (.evaluate o)) :
    (o.value = none ∨ o.row = none) ∧ (o.value = none ∨ o.rows = none) ∧ (o.row = none ∨ o.rows = none) := by
  obtain ⟨d, hd⟩ := exists_finish_of_ofArgs h
  unfold Draft.finish at hd
  split at hd
  · cases hd
  split at hd
  · cases hd
  rename_i hfind
  split at hd
  · cases hd
  obtain rfl := Request.evaluate.inj (Except.ok.inj hd)
  have hnone : ∀ q ∈ Draft.conflicts, d.valueOf q.1 = none ∨ d.valueOf q.2 = none := by
    intro q hq
    have hq' := List.find?_eq_none.1 hfind q hq
    cases hfirst : d.valueOf q.1 with
    | none => exact .inl rfl
    | some text =>
      right
      simpa [hfirst] using hq'
  exact ⟨hnone (.value, .row) (by decide), hnone (.value, .rows) (by decide), hnone (.row, .rows) (by decide)⟩

/-! ## Results -/

/-- The results of the rows of a file are those of each of them, in order, with any settings. -/
theorem resultsOf_eq_map (s : Surroundings) (o : Options) (hcancels : b.cancels = fun _ => false) (rows : List (Row Value)) :
    resultsOf s o b rows = rows.map fun r => ⟨r.index, (b.trace r).value⟩ := by
  have hcalm : ∀ r, (b.evaluate r).2 = false := fun r => by simp [Batch.evaluate, hcancels]
  unfold resultsOf
  split
  · exact Batch.results_runParallel_of_calm hcalm _ _
  · exact Batch.results_run_of_calm (fun _ _ => rfl) (fun r _ => hcalm r) ()

/-- The lines for the rows of a file, all of which are looked at from the column of the first one. -/
theorem evaluateRows_of_rows {path : String} {first : Row Value} {rest : List (Row Value)} (expr : Expr)
    (hrows : fileRows s path = .ok (first :: rest)) :
    evaluateRows s o path expr = .ok (String.join ((first :: rest).map fun r =>
      showResult o.outputJson ⟨r.index, (expr.eval (.standard s.now) (.ofCell r (columnOf o.column first))).value⟩)) := by
  have hresults := resultsOf_eq_map s o
    (b := { registry := .standard s.now, expr, column := columnOf o.column first }) rfl (first :: rest)
  rw [evaluateRows, hrows, Except.map]
  dsimp only
  rw [hresults, List.map_map]
  rfl

theorem run_of_read (s : Surroundings) (hread : Request.read args = .ok (.evaluate o)) :
    run s args = .ofOutput (evaluate s o) := by
  rw [run, hread]
  rfl

/-- The reply to a request for the rows of a file. -/
theorem run_of_rows {path : String} (s : Surroundings) (hread : Request.read args = .ok (.evaluate o))
    (hparse : Expr.parse o.expression = .ok expr) (hrows : o.rows = some path) :
    run s args = .ofOutput (evaluateRows s o path expr) := by
  simp only [run_of_read s hread, evaluate, hparse, hrows]

/-- The reply to a request for a single row. -/
theorem run_of_single (s : Surroundings) (hread : Request.read args = .ok (.evaluate o))
    (hparse : Expr.parse o.expression = .ok expr) (hrows : o.rows = none) :
    run s args = .ofOutput (evaluateSingle s o expr) := by
  simp only [run_of_read s hread, evaluate, hparse, hrows]

end CommandLine

end CellExpr

namespace CellExpr.CommandLine

open CellExpr.Calendar

variable {s s' : Surroundings} {o o' : Options} {args args' : List String} {expr : Expr} {text R : String}
  {fields : List (String × Json)} {objects : List (List (String × Json))}

/-! ## Rows of files -/

/-- The lines of a text that are not blank. -/
def textLines (text : String) : List String :=
  ((lines text.toList).filter fun line => !(Text.trim line).isEmpty).map String.ofList

/-- The objects of lines are those of the lines that are not blank. -/
theorem readObjects_of_mapM {ls : List (List Char)} (number : Nat)
    (h : ((ls.filter fun line => !(Text.trim line).isEmpty).map String.ofList).mapM readObject? = some objects) :
    readObjects number ls = .ok objects := by
  induction ls generalizing number objects with
  | nil =>
    obtain rfl : [] = objects := Option.some.inj h
    rfl
  | cons line ls ih =>
    rw [readObjects]
    by_cases hblank : (Text.trim line).isEmpty = true
    · rw [if_pos hblank]
      refine ih (number + 1) ?_
      rwa [List.filter_cons_of_neg (by simp [hblank])] at h
    · rw [if_neg hblank]
      rw [List.filter_cons_of_pos (by simp [hblank]), List.map_cons, List.mapM_cons] at h
      obtain ⟨fields, hfields, h⟩ := Option.bind_eq_some_iff.1 h
      obtain ⟨rest, hrest, h⟩ := Option.bind_eq_some_iff.1 h
      obtain rfl : fields :: rest = objects := Option.some.inj h
      rw [hfields, ih (number + 1) hrest]
      rfl

/-- The rows of a file are those of the objects on its lines. -/
theorem readRows_of_mapM (h : (textLines text).mapM readObject? = some objects) : readRows text = .ok (rowsOf objects) := by
  rw [readRows, readObjects_of_mapM 1 h]
  rfl

/-- The names in an object that is read differ. -/
theorem nodup_fieldNames (h : readObject? text = some fields) : (fieldNames fields).Nodup := by
  unfold readObject? at h
  split at h
  · rename_i fields' hparse
    obtain rfl : fields' = fields := Option.some.inj h
    cases Json.formed_of_parse? hparse with
    | object hnames => exact hnames
  · cases h

theorem addNames_of_nodup {columns names : List String} (h : (columns ++ names).Nodup) :
    addNames columns names = columns ++ names := by
  induction names generalizing columns with
  | nil => exact (List.append_nil columns).symm
  | cons name names ih =>
    have hnew : columns.contains name = false := by
      rw [Bool.eq_false_iff, Ne, List.contains_iff_mem]
      exact fun hmem => (List.nodup_append.1 h).2.2 _ hmem _ List.mem_cons_self rfl
    rw [List.append_cons] at h ⊢
    rw [addNames, List.foldl_cons, hnew]
    exact ih h

/-- A file with one object has the row of its fields. -/
theorem readRows_of_single (hlines : textLines text = [R]) (hobject : readObject? R = some fields) :
    readRows text = .ok [.ofFields 0 (fieldNames fields) fields] := by
  have hobjects : (textLines text).mapM readObject? = some [fields] := by
    rw [hlines, List.mapM_cons, hobject]
    rfl
  have hcolumns : addNames [] (fieldNames fields) = fieldNames fields := addNames_of_nodup (nodup_fieldNames hobject)
  rw [readRows_of_mapM hobjects, rowsOf, List.foldl_cons, List.foldl_nil, hcolumns]
  rfl

/-! ## What is shown -/

/-- The value of an expression for the row of an object, looked at from the column asked for or else from the first one. -/
def valueOfRow (now : Instant) (expr : Expr) (column : Option String) (fields : List (String × Json)) : Value :=
  let r := Row.ofFields 0 (fieldNames fields) fields
  (expr.eval (.standard now) (.ofCell r (columnOf column r))).value

/-- The document of the value of a single row. -/
theorem render_result (v : Value) :
    (Json.object [("result", v.toWritten)]).render = "\x7b\"result\":" ++ v.jsonText ++ "\x7d" := by
  have hbegin : "\x7b" ++ (Json.quote "result" ++ ":") = "\x7b\"result\":" := by decide
  rw [Json.render, Json.renderFields, Json.renderFields, String.intercalate_singleton, ← String.append_assoc, hbegin]
  rfl

/-- The line of a result names its row and has the JSON text of its value. -/
theorem line_eq (r : RowResult) :
    r.line = "\x7b\"row\":" ++ toString r.row ++ ",\"value\":" ++ r.value.jsonText ++ "\x7d" := by
  have hrow : "\x7b\"row\":" = "\x7b" ++ (Json.quote "row" ++ ":") := by decide
  have hvalue : ",\"value\":" = "," ++ (Json.quote "value" ++ ":") := by decide
  rw [RowResult.line, Json.render, Json.renderFields, Json.renderFields, Json.renderFields, String.intercalate_cons_cons,
    String.intercalate_singleton, hrow, hvalue]
  simp only [String.append_assoc]
  rfl

theorem showValue_json (v : Value) : showValue true v = .ok ("\x7b\"result\":" ++ v.jsonText ++ "\x7d\n") := by
  have hend : "\x7d\n" = "\x7d" ++ "\n" := by decide
  rw [hend, ← String.append_assoc, ← render_result]
  rfl

/-- The result of the first row, shown in JSON. -/
theorem showResult_json (v : Value) : showResult true ⟨0, v⟩ = "\x7b\"row\":0,\"value\":" ++ v.jsonText ++ "\x7d\n" := by
  have hbegin : "\x7b\"row\":0,\"value\":" = "\x7b\"row\":" ++ toString 0 ++ ",\"value\":" := by decide
  have hend : "\x7d\n" = "\x7d" ++ "\n" := by decide
  rw [hbegin, hend, ← String.append_assoc, ← line_eq ⟨0, v⟩]
  rfl

/-- The result of the first row, shown as a text. -/
theorem showResult_text (v : Value) : showResult false ⟨0, v⟩ = "0\t" ++ v.text ++ "\n" := by
  have hbegin : "0\t" = toString 0 ++ "\t" := by decide
  rw [hbegin]
  rfl

theorem showValue_of_not_error {v : Value} (h : v.isError = false) : showValue false v = .ok (v.text ++ "\n") := by
  cases v with
  | error e => cases h
  | _ => rfl

/-! ## One row in three ways -/

/-- The reply to a request with the text of an object shows the value of its row. -/
theorem run_of_objectText (hread : Request.read args = .ok (.evaluate o)) (hparse : Expr.parse o.expression = .ok expr)
    (hrow : o.row = some R) (hobject : readObject? R = some fields) :
    run s args = .ofOutput (showValue o.outputJson (valueOfRow s.now expr o.column fields)) := by
  obtain ⟨hvalue, _, hrows⟩ := exclusive_of_read hread
  have hvalue' : o.value = none := hvalue.resolve_right (by simp [hrow])
  have hrows' : o.rows = none := hrows.resolve_left (by simp [hrow])
  have hsingle : singleRow o = .ok (.ofFields 0 (fieldNames fields) fields) := by
    rw [singleRow, hvalue', hrow]
    dsimp only
    rw [hobject]
  rw [run_of_single s hread hparse hrows', evaluateSingle, hsingle]
  rfl

/-- The reply to a request with a file in which there is one object shows the value of its row. -/
theorem run_of_objectLine {path : String} (hread : Request.read args = .ok (.evaluate o)) (hparse : Expr.parse o.expression = .ok expr)
    (hrows : o.rows = some path) (hfile : s.file path = .ok text) (hlines : textLines text = [R])
    (hobject : readObject? R = some fields) :
    run s args = .printing (showResult o.outputJson ⟨0, valueOfRow s.now expr o.column fields⟩) := by
  have hrow : fileRows s path = .ok [.ofFields 0 (fieldNames fields) fields] := by
    rw [fileRows, hfile]
    dsimp only
    rw [readRows_of_single hlines hobject]
    rfl
  rw [run_of_rows s hread hparse hrows, evaluateRows_of_rows expr hrow]
  exact congrArg Reply.printing String.empty_append

/-- The reply to a request with the value of a cell in a named column is that to the object of the cell. -/
theorem run_of_cell {v c : String} (hread : Request.read args = .ok (.evaluate o)) (hparse : Expr.parse o.expression = .ok expr)
    (hvalue : o.value = some v) (hcolumn : o.column = some c) :
    run s args = .ofOutput (showValue o.outputJson (valueOfRow s.now expr (some c) [(c, .string v)])) := by
  have hrows : o.rows = none := (exclusive_of_read hread).2.1.resolve_left (by simp [hvalue])
  have hcell : Row.ofFields 0 (fieldNames [(c, .string v)]) [(c, .string v)] = { index := 0, cells := [(c, .string v)] } := by
    simp [Row.ofFields, fieldNames, Value.ofJson]
  have hsingle : singleRow o = .ok (.ofFields 0 (fieldNames [(c, .string v)]) [(c, .string v)]) := by
    rw [singleRow, hvalue, hcolumn, hcell]
    rfl
  rw [run_of_single s hread hparse hrows, evaluateSingle, hsingle, hcolumn]
  rfl

/-- The only column of a row is looked at by default. -/
theorem valueOfRow_default (now : Instant) (expr : Expr) (c : String) (j : Json) :
    valueOfRow now expr none [(c, j)] = valueOfRow now expr (some c) [(c, j)] := rfl

/-- The text of the object with one cell is read as this object. -/
theorem readObject?_render (c v : String) : readObject? (Json.object [(c, .string v)]).render = some [(c, .string v)] := by
  have hformed : (Json.object [(c, .string v)]).Formed Json.IsReadBack Json.maxNesting := by
    refine .object (by simp) fun field hfield => ?_
    obtain rfl := List.mem_singleton.1 hfield
    exact .string v
  rw [readObject?, Json.parse?_render hformed]

/-- An expression that does not ask for the time has the same value whichever way a row is given, and the command shows the same of
it, at whatever times and with whatever settings it is called. `R` is the text of an object, with which it is called the first time.

* With a file in which `R` is the only line that is not blank, and the same column or none both times: in JSON the value has the
  same text both times. Otherwise the text of the value is printed after the number of the row, and alone; of an error the message
  is printed after the number, and is the one with which the command fails.
* With a cell and the name of its column: if `R` is the object with this cell, the reply is the same. Each cell has such a text. -/
theorem run_of_same_row (hread : Request.read args = .ok (.evaluate o)) (hread' : Request.read args' = .ok (.evaluate o'))
    (hexpression : o'.expression = o.expression) (hjson : o'.outputJson = o.outputJson)
    (hparse : Expr.parse o.expression = .ok expr) (hnow : "now" ∉ expr.calledNames)
    (hrow : o.row = some R) (hobject : readObject? R = some fields) :
    (∀ path text, o'.rows = some path → o'.column = o.column → s'.file path = .ok text → textLines text = [R] →
      ∃ v, v = valueOfRow s.now expr o.column fields ∧
        (o.outputJson = true →
          run s args = .printing ("\x7b\"result\":" ++ v.jsonText ++ "\x7d\n") ∧
            run s' args' = .printing ("\x7b\"row\":0,\"value\":" ++ v.jsonText ++ "\x7d\n")) ∧
        (o.outputJson = false → v.isError = false →
          run s args = .printing (v.text ++ "\n") ∧ run s' args' = .printing ("0\t" ++ v.text ++ "\n")) ∧
        (o.outputJson = false → ∀ e, v = .error e →
          run s args = { code := 1, complaint := "Error: " ++ e.text ++ "\n" } ∧
            run s' args' = .printing ("0\t" ++ e.text ++ "\n"))) ∧
      (∀ v c, o'.value = some v → o'.column = some c → fields = [(c, .string v)] → o.column = none ∨ o.column = some c →
        run s' args' = run s args) ∧
      ∀ c v, readObject? (Json.object [(c, .string v)]).render = some [(c, .string v)] := by
  have hparse' : Expr.parse o'.expression = .ok expr := hexpression ▸ hparse
  have htime (column : Option String) : valueOfRow s'.now expr column fields = valueOfRow s.now expr column fields :=
    congrArg Traced.value (Expr.eval_standard_of_not_now hnow s.now s'.now _)
  have hfirst := run_of_objectText (s := s) hread hparse hrow hobject
  refine ⟨fun path text hrows hcolumn hfile hlines => ?_, fun v c hvalue hcolumn hfields hdefault => ?_, readObject?_render⟩
  · have hsecond := run_of_objectLine hread' hparse' hrows hfile hlines hobject
    rw [hjson, hcolumn, htime] at hsecond
    generalize valueOfRow s.now expr o.column fields = v at hfirst hsecond
    refine ⟨v, rfl, fun houtput => ?_, fun houtput herror => ?_, fun houtput e he => ?_⟩
    · rw [hfirst, hsecond, houtput, showValue_json, showResult_json]
      exact ⟨rfl, rfl⟩
    · rw [hfirst, hsecond, houtput, showValue_of_not_error herror, showResult_text]
      exact ⟨rfl, rfl⟩
    · rw [hfirst, hsecond, houtput, he, showResult_text]
      exact ⟨rfl, rfl⟩
  · have hsecond := run_of_cell (s := s') hread' hparse' hvalue hcolumn
    subst hfields
    rw [hfirst, hsecond, hjson, htime]
    rcases hdefault with hdefault | hdefault
    · rw [hdefault, valueOfRow_default]
    · rw [hdefault]

/-- Every file has the object of one cell, between blank lines. -/
def cellSurroundings (now : Instant) : Surroundings where
  now
  processors := 4
  environment _ := none
  file _ := .ok "\r\n\x7b\"city\":\"Paris\"\x7d\r\n  \n"

/-- The value of a cell, given as the text of an object, as a line of a file that several workers look at a day later, and as a
cell. -/
theorem run_of_same_row_cell :
    run (cellSurroundings ⟨0, 0, by decide⟩) ["value", "--row", "\x7b\"city\":\"Paris\"\x7d"] = .printing "Paris\n" ∧
      run (cellSurroundings ⟨86400, 0, by decide⟩) ["--rows=rows.jsonl", "--parallel", "value"] = .printing "0\tParis\n" ∧
      run (cellSurroundings ⟨86400, 0, by decide⟩) ["value", "--value", "Paris", "--column=city"] = .printing "Paris\n" := by
  have hshown : ((Expr.parse "value").map fun expr =>
      (expr.calledNames, (valueOfRow ⟨0, 0, by decide⟩ expr none [("city", .string "Paris")]).isError,
        (valueOfRow ⟨0, 0, by decide⟩ expr none [("city", .string "Paris")]).text)) = .ok ([], false, "Paris") := by
    decide +kernel
  cases hparse : Expr.parse "value" with
  | error =>
    rw [hparse] at hshown
    cases hshown
  | ok expr =>
    rw [hparse] at hshown
    obtain ⟨hcalled, hvalue⟩ := Prod.mk.inj (Except.ok.inj hshown)
    obtain ⟨herror, htext⟩ := Prod.mk.inj hvalue
    have hrow : Request.read ["value", "--row", "\x7b\"city\":\"Paris\"\x7d"] =
        .ok (.evaluate { expression := "value", row := some "\x7b\"city\":\"Paris\"\x7d" }) := by decide
    have hrows : Request.read ["--rows=rows.jsonl", "--parallel", "value"] =
        .ok (.evaluate { expression := "value", rows := some "rows.jsonl", parallel := true }) := by decide
    have hcell : Request.read ["value", "--value", "Paris", "--column=city"] =
        .ok (.evaluate { expression := "value", value := some "Paris", column := some "city" }) := by decide
    have hobject : readObject? "\x7b\"city\":\"Paris\"\x7d" = some [("city", .string "Paris")] := rfl
    have hlines : textLines "\r\n\x7b\"city\":\"Paris\"\x7d\r\n  \n" = ["\x7b\"city\":\"Paris\"\x7d"] := by
      decide +kernel
    have hnow : "now" ∉ expr.calledNames := hcalled ▸ List.not_mem_nil
    obtain ⟨hfile, _, _⟩ :=
      @run_of_same_row (cellSurroundings ⟨0, 0, by decide⟩) (cellSurroundings ⟨86400, 0, by decide⟩) _ _ _ _ _ _ _ hrow hrows
        rfl rfl hparse hnow rfl hobject
    obtain ⟨_, hsame, _⟩ :=
      @run_of_same_row (cellSurroundings ⟨0, 0, by decide⟩) (cellSurroundings ⟨86400, 0, by decide⟩) _ _ _ _ _ _ _ hrow hcell
        rfl rfl hparse hnow rfl hobject
    obtain ⟨v, hv, _, hprinted, _⟩ := hfile "rows.jsonl" _ rfl rfl rfl hlines
    obtain ⟨hfirst, hsecond⟩ := hprinted rfl ((congrArg Value.isError hv).trans herror)
    have halone : "Paris" ++ "\n" = "Paris\n" := by decide
    have hnumbered : "0\t" ++ "Paris" ++ "\n" = "0\tParis\n" := by decide
    rw [(congrArg Value.text hv).trans htext, halone] at hfirst
    rw [(congrArg Value.text hv).trans htext, hnumbered] at hsecond
    exact ⟨hfirst, hsecond, (hsame "Paris" "city" rfl rfl rfl (.inl rfl)).trans hfirst⟩

end CellExpr.CommandLine
