import ExactCalc.Proofs.CommandLine
import ExactCalc.Proofs.JsonRoundTrip
import ExactCalc.Service

/-!
# The command and the service agree

Both front ends give the report of the same calculation: the command when the
variables are assigned on its command line, the service when they stand in the body
of a request. A value is printed by the one and answered with status 200 by the
other; a failure is printed under one of two headings and answered with status 400.
Nothing else can happen on either side. What the service answers is told by reading
the body of its answer, and a request can be written for every task. Every nesting limit
of at most 4300 digits can be set from outside.
-/

namespace ExactCalc

namespace Text

/-- No letter with a capital comes before `a`, so what stands there is left as it is. -/
theorem capital_of_lt {c : Char} (h : c.toNat < 0x61) : capital c = [c] := by
  -- The tables are gone through as lists, which the kernel evaluates quickly.
  have hsequences : capitalSequences.toList.all (0x61 ≤ ·.1) = true := by decide +kernel
  have hruns : capitalRuns.toList.all (0x61 ≤ ·.1) = true := by decide +kernel
  unfold capital
  dsimp only
  split
  · next heq =>
    have hmem := Array.mem_toList_iff.mpr (Array.mem_of_find?_eq_some heq)
    have hle := List.all_eq_true.mp hsequences _ hmem
    have hletter := Array.find?_some heq
    simp only [decide_eq_true_eq, beq_iff_eq] at hle hletter
    omega
  · split
    · next heq =>
      have hmem := Array.mem_toList_iff.mpr (Array.mem_of_find?_eq_some heq)
      have hle := List.all_eq_true.mp hruns _ hmem
      have hrun := Array.find?_some heq
      simp only [decide_eq_true_eq, Bool.and_eq_true] at hle hrun
      omega
    · rfl

theorem uppercase_of_lt {s : String} (h : ∀ c ∈ s.toList, c.toNat < 0x61) : uppercase s = s := by
  rw [uppercase, ← String.toList_inj, String.toList_ofList]
  generalize s.toList = chars at h ⊢
  induction chars with
  | nil => rfl
  | cons c rest ih =>
    rw [List.flatMap_cons, capital_of_lt (h c (by simp)), ih fun d hd => h d (by simp [hd])]
    rfl

theorem toList_loop_eq (bytes : ByteArray) (i : ℕ) (done : List UInt8) :
    ByteArray.toList.loop bytes i done = done.reverse ++ bytes.data.toList.drop i := by
  have hlength : bytes.data.toList.length = bytes.size := rfl
  fun_induction ByteArray.toList.loop bytes i done with
  | case1 i done h ih =>
    have hi : i < bytes.data.toList.length := h
    have hget : bytes.get! i = bytes.data.toList[i] := by
      change bytes.data[i]! = _
      rw [getElem!_pos bytes.data i h, Array.getElem_toList]
    rw [ih, List.reverse_cons, List.append_assoc, List.singleton_append, hget,
      ← List.drop_eq_getElem_cons hi]
  | case2 i done h =>
    rw [List.drop_eq_nil_of_le (by omega), List.append_nil]

/-- An object whose first name begins like this points to the usual layout. -/
theorem decode?_object (tail : String) :
    decode? ("\x7b\"ex" ++ tail) = some ("\x7b\"ex" ++ tail) := by
  have hbytes : ("\x7b\"ex" ++ tail).toUTF8.toList =
      123 :: 34 :: 101 :: 120 :: tail.toUTF8.data.toList := by
    rw [ByteArray.toList, toList_loop_eq, String.toUTF8, String.toByteArray_append,
      ByteArray.toList_data_append]
    rfl
  rw [decode?, hbytes]
  simp [Layout.ofBytes, withoutOrderMark]

end Text

namespace Service

/-! ## Requests -/

/-- The fields in which a request states a task. -/
def Task.fields (task : Task) : List (String × Json) :=
  [("expression", .string task.expression),
    ("variables", .object (task.bindings.map fun (name, n) => (name, .integer n)))]

def Task.json (task : Task) : Json := .object task.fields

theorem Task.exact_json {task : Task} (h : (task.bindings.map Prod.fst).Nodup) :
    task.json.Exact := by
  have hvariables :
      (Json.object (task.bindings.map fun (name, n) => (name, .integer n))).Exact := by
    refine .object ?_ ?_
    · simpa [Function.comp_def] using h
    · intro field hfield
      obtain ⟨binding, -, rfl⟩ := List.mem_map.mp hfield
      exact .integer _
  refine .object (by simp [fields]) ?_
  simpa [fields] using ⟨.string _, hvariables⟩

theorem readEach_integers (bindings : Entries ℤ) :
    readEach (bindings.map fun (name, n) => (name, .integer n)) = .ok bindings := by
  induction bindings with
  | nil => rfl
  | cons binding rest ih =>
    rw [List.map_cons, readEach, ih]
    rfl

theorem readTask_fields (task : Task) : readTask task.fields = .ok task := by
  have hvariables : readVariables task.fields = .ok task.bindings :=
    readEach_integers task.bindings
  rw [readTask, hvariables]
  rfl

theorem readBody_json {task : Task} (h : (task.bindings.map Prod.fst).Nodup) :
    readBody (some task.json.write) = .ok task := by
  obtain ⟨tail, htext⟩ : ∃ tail, task.json.write = "\x7b\"ex" ++ tail := by
    refine ⟨.ofList (task.json.write.toList.drop 4), ?_⟩
    rw [← String.toList_inj]
    simp [Task.json, Task.fields, Json.write, Json.writeFields, Json.quote, Json.escape]
  have hne : task.json.write ≠ "" := by
    rw [htext]
    simp
  have hdecode : Text.decode? task.json.write = some task.json.write := by
    rw [htext, Text.decode?_object]
  unfold readBody
  split
  · next hempty => exact absurd hempty hne
  · rw [Option.getD_some, hdecode]
    dsimp only
    rw [Json.read_write (Task.exact_json h)]
    change (readTask task.fields).mapError _ = _
    rw [readTask_fields]
    rfl

theorem handle_evaluate (service : Service) (body : Option String) :
    service.handle ⟨"POST", "/evaluate", body⟩ = service.evaluate body := by
  have hpath : Address.path "/evaluate" = .ok "/evaluate".toList := by cbv
  have hmethod : Text.uppercase "POST" = "POST" := Text.uppercase_of_lt (by simp)
  have hroute : route "/evaluate".toList = "/evaluate" := by cbv
  have hanswer : service.answer "POST" "/evaluate".toList body = service.evaluate body := by
    rw [answer]
    exact hroute
  rw [handle, hpath, hmethod]
  change (service.answer "POST" "/evaluate".toList body >>= _) = _
  rw [hanswer]
  cases service.evaluate body with
  | ok response => rfl
  | error breakdown => rfl

/-! ## Answers -/

theorem exact_fractionJson (a : Fraction) : (fractionJson a).Exact := by
  refine .object (by simp) ?_
  simpa using ⟨.integer _, .integer _⟩

theorem exact_failureJson (f : FailureReport) : (failureJson f).Exact := by
  have htext (text : Option String) : (text.elim .null Json.string).Exact := by
    cases text with
    | none => exact .null
    | some s => exact .string s
  have hposition : (f.position.elim .null Json.integer).Exact := by
    cases f.position with
    | none => exact .null
    | some n => exact .integer n
  refine .object (by simp) ?_
  simpa using ⟨.string _, .string _, htext _, hposition, htext _⟩

theorem present_ok {c : Calculation} {exact : Fraction} (h : c.outcome = .ok exact) :
    (present c).status = 200 ∧
      Json.read (present c).body = .ok (.object [("expression", .string c.expression),
        ("value", .integer exact.truncate), ("exact", fractionJson exact),
        ("steps", .array ((c.steps.map Step.text).map .string))]) := by
  have hpresent : present c = respond 200 (.object [("expression", .string c.expression),
      ("value", .integer exact.truncate), ("exact", fractionJson exact),
      ("steps", .array ((c.steps.map Step.text).map .string))]) := by
    simp [present, h, Function.comp_def]
  have hsteps : (Json.array ((c.steps.map Step.text).map .string)).Exact := by
    refine .array fun value hvalue => ?_
    obtain ⟨text, -, rfl⟩ := List.mem_map.mp hvalue
    exact .string text
  rw [hpresent]
  refine ⟨rfl, Json.read_write (.object (by simp) ?_)⟩
  simpa [-List.map_map] using ⟨.string _, .integer _, exact_fractionJson exact, hsteps⟩

theorem present_error {c : Calculation} {failure : Failure} (h : c.outcome = .error failure) :
    (present c).status = 400 ∧
      Json.read (present c).body = .ok (.object [("detail", failureJson failure.report)]) := by
  have hpresent : present c = respond 400 (.object [("detail", failureJson failure.report)]) := by
    simp [present, h]
  rw [hpresent]
  refine ⟨rfl, Json.read_write (.object (by simp) ?_)⟩
  simpa using exact_failureJson failure.report

end Service

/-! ## Settings -/

/-- Digits without a zero in front, and with a sign or none, are in plain form. -/
theorem Numeral.plain_signed {digits : List Char} (hne : digits ≠ [])
    (hdigits : ∀ c ∈ digits, c.isDigit = true) (hzero : digits.head? = some '0' → digits = ['0'])
    (hlength : digits.length ≤ 4300) (negative : Bool) :
    plain (if negative then '-' :: digits else digits) =
      .ok (withSign negative (value digits)) := by
  have htake : digits.takeWhile Char.isDigit = digits := List.takeWhile_eq_self_iff.mpr hdigits
  have hfront : (digits.isEmpty || (digits.head? == some '0' && digits != ['0'])) = false := by
    simpa [hne] using hzero
  have hshort : ¬spelledDigits < digits.length := not_lt.mpr hlength
  cases negative with
  | true => simp [plain, htake, hfront, hshort]
  | false =>
    have hhead : digits.head? ≠ some '-' := by
      intro hminus
      exact absurd (hdigits '-' (List.mem_of_head? hminus)) (by decide)
    have hsign : (digits.head? == some '-') = false := by simpa using hhead
    simp [plain, htake, hfront, hshort, hsign]

theorem Numeral.plain_ofInt {n : ℤ} (h : digitCount n ≤ 4300) : plain (ofInt n).toList = .ok n := by
  have hzero (hhead : (Nat.toDigits 10 n.natAbs).head? = some '0') :
      Nat.toDigits 10 n.natAbs = ['0'] := by
    by_cases hn : n.natAbs = 0
    · rw [hn]
      rfl
    · exact absurd hhead (Json.head?_toDigits_ne_zero hn)
  have hplain := plain_signed Nat.toDigits_ne_nil (fun _ hc => isDigit_of_mem_toDigits hc) hzero h
    (n < 0)
  simp only [decide_eq_true_eq] at hplain
  rw [toList_ofInt, hplain, value_toDigits, withSign_natAbs]

/-- A limit can be set in the environment. -/
theorem Settings.load_limit {limit : ℤ} (h : Numeral.digitCount limit ≤ 4300) :
    Settings.load [] ⟨[("LETCALC_MAX_NESTING_DEPTH", Numeral.ofInt limit)], {}⟩ =
      .ok { maxNestingDepth := limit } := by
  have hname : "LETCALC_MAX_NESTING_DEPTH".toLower = "letcalc_max_nesting_depth" := by
    rw [← String.toList_inj, String.toLower, String.toList_map]
    decide
  have hspelled : Json.toInt (.string (Numeral.ofInt limit)) = .ok limit := by
    rw [Json.toInt, Numeral.spelled, Numeral.plain_ofInt h]
  have hraw (setting : Setting) :
      raw? [] ⟨[("LETCALC_MAX_NESTING_DEPTH", Numeral.ofInt limit)], {}⟩ setting =
        if setting = .maxNestingDepth then some (.string (Numeral.ofInt limit)) else none := by
    simp only [raw?, firstSpelling?, lastSpelling?, List.map_cons, List.map_nil, hname]
    cases setting with
    | maxNestingDepth => rfl
    | logLevel => rfl
    | appTitle => rfl
    | appVersion => rfl
  simp only [load, hraw, if_true, reduceCtorEq, resolve, hspelled]
  rfl

/-! ## Agreement -/

/-- Both front ends give the report of the calculation with the last value of each name, under any
nesting limit. The command takes the limit from its surroundings, where every limit of at most 4300
digits can be set; the warnings that a settings file gives rise to come first on its error stream,
and where there are none, the output is all that is printed. The service answers the JSON text of
the task, and every other body that reads as the task, too. Half of a surrogate pair reads as the
replacement character, so that other bodies are left aside where the expression has that one. -/
theorem Settings.frontEnds_agree (limit : ℤ) (assignments : List Command.Assignment)
    (expression : String) :
    let bindings := Entries.ofPairs (assignments.map Command.Assignment.binding)
    let report := ((Calculator.mk limit).evaluate bindings expression).report
    ∃ (output : Command.Output) (response : Service.Response),
      (∀ (around : Settings.Surroundings) (settings : Settings),
        Settings.load [] around = .ok settings → settings.maxNestingDepth = limit →
        Level.ofSetting settings.logLevel = .ok .warning →
        Command.run (Command.arguments assignments expression) around =
          .ok (output.warned around.file.warnings)) ∧
      (Numeral.digitCount limit ≤ 4300 →
        Settings.load [] ⟨[("LETCALC_MAX_NESTING_DEPTH", Numeral.ofInt limit)], {}⟩ =
          .ok { maxNestingDepth := limit }) ∧
      (∀ settings : Settings, settings.maxNestingDepth = limit →
        Service.handle ⟨settings⟩ ⟨"POST", "/evaluate",
          some (Service.Task.mk expression bindings).json.write⟩ = .ok response ∧
        ∀ body, '\uFFFD' ∉ expression.toList →
          Service.readBody body = .ok ⟨expression, bindings⟩ →
          Service.handle ⟨settings⟩ ⟨"POST", "/evaluate", body⟩ = .ok response) ∧
      ((report.ok = true ∧ ∃ value exact,
          report.value = some value ∧ report.exact = some exact ∧
          output = ⟨0, Numeral.ofInt value ++ "\n", ""⟩ ∧
          response.status = 200 ∧
          Json.read response.body = .ok (.object [("expression", .string expression),
            ("value", .integer value),
            ("exact", .object [("numerator", .integer exact.num),
              ("denominator", .integer exact.den)]),
            ("steps", .array (report.steps.map .string))])) ∨
        (report.ok = false ∧ ∃ failure,
          report.error = some failure ∧
          output = ⟨1, "", (if failure.kind = "parse_failure" then
              "Unable to parse the expression: "
            else "Unexpected error while evaluating the expression: ") ++ expression ++
              "\n  Error: " ++ failure.message ++ "\n" ++ Command.usagePage⟩ ∧
          response.status = 400 ∧
          Json.read response.body = .ok (.object [("detail", .object [
            ("kind", .string failure.kind), ("message", .string failure.message),
            ("offending_text", failure.offendingText.elim .null .string),
            ("position", failure.position.elim .null .integer),
            ("name", failure.name.elim .null .string)])]))) ∧
      Service.readBody (some (Service.Task.mk expression bindings).json.write) =
        .ok ⟨expression, bindings⟩ ∧
      ∀ name, bindings.lookup name =
        (assignments.map Command.Assignment.binding).reverse.lookup name := by
  intro bindings report
  have hexpression : ((Calculator.mk limit).evaluate bindings expression).expression =
      expression := by
    unfold Calculator.evaluate
    split <;> rfl
  have hjson : Service.readBody (some (Service.Task.mk expression bindings).json.write) =
      .ok ⟨expression, bindings⟩ := Service.readBody_json (Entries.nodup_ofPairs _)
  refine ⟨Command.present .warning false ((Calculator.mk limit).evaluate bindings expression),
    Service.present ((Calculator.mk limit).evaluate bindings expression), ?_,
    Settings.load_limit, ?_, ?_, hjson, Entries.lookup_ofPairs _⟩
  · rintro around settings hload rfl hlevel
    exact Command.run_arguments assignments expression hload hlevel
  · rintro settings rfl
    have hhandle (body : Option String)
        (hbody : Service.readBody body = .ok ⟨expression, bindings⟩) :
        Service.handle ⟨settings⟩ ⟨"POST", "/evaluate", body⟩ =
          .ok (Service.present (settings.calculator.evaluate bindings expression)) := by
      rw [Service.handle_evaluate, Service.evaluate, hbody]
      rfl
    exact ⟨hhandle _ hjson, fun body _ hbody => hhandle body hbody⟩
  · cases houtcome : ((Calculator.mk limit).evaluate bindings expression).outcome with
    | ok exact =>
      have hreport : report = ⟨true, expression, some exact.truncate, some exact,
          ((Calculator.mk limit).evaluate bindings expression).steps.map Step.text, none⟩ := by
        simp [report, Calculation.report, houtcome, hexpression]
      obtain ⟨hstatus, hbody⟩ := Service.present_ok houtcome
      rw [hexpression] at hbody
      rw [hreport]
      exact .inl ⟨rfl, exact.truncate, exact, rfl, rfl, Command.present_ok houtcome, hstatus, hbody⟩
    | error failure =>
      have hreport : report = ⟨false, expression, none, none,
          ((Calculator.mk limit).evaluate bindings expression).steps.map Step.text,
          some failure.report⟩ := by
        simp [report, Calculation.report, houtcome, hexpression]
      have houtput := Command.present_error houtcome
      obtain ⟨hstatus, hbody⟩ := Service.present_error houtcome
      rw [hexpression] at houtput
      rw [hreport]
      exact .inr ⟨rfl, failure.report, rfl, houtput, hstatus, hbody⟩

/-- The assignments `x=1` and `x=-07`. -/
def Command.Assignment.repeated : List Assignment :=
  [⟨⟨['x'], by decide, List.all_eq_true.mp rfl⟩, false, ['1'], by decide,
      List.all_eq_true.mp rfl, by decide⟩,
    ⟨⟨['x'], by decide, List.all_eq_true.mp rfl⟩, true, ['0', '7'], by decide,
      List.all_eq_true.mp rfl, by decide⟩]

/-- A value under the usual limit, and a failure under a limit that is set in the environment; both
times the second assignment counts. -/
theorem Settings.frontEnds_agree_repeated :
    (Command.run ["--var", "x=1", "--var", "x=-07", "--", "div(x, 2)"] {} =
        .ok ⟨0, "-3\n", ""⟩ ∧
      ∃ response, Service.handle ⟨{}⟩ ⟨"POST", "/evaluate",
          some (Service.Task.mk "div(x, 2)" [("x", -7)]).json.write⟩ = .ok response ∧
        response.status = 200 ∧
        Json.read response.body = .ok (.object [("expression", .string "div(x, 2)"),
          ("value", .integer (-3)),
          ("exact", .object [("numerator", .integer (-7)), ("denominator", .integer 2)]),
          ("steps", .array [.string "x = -7", .string "div(-7, 2) = -7/2"])])) ∧
    Command.run ["--var", "x=1", "--var", "x=-07", "--", "add(x, 2)"]
        ⟨[("LETCALC_MAX_NESTING_DEPTH", "0")], {}⟩ =
      .ok ⟨1, "", "Unable to parse the expression: add(x, 2)\n" ++
        "  Error: Expression nested deeper than 0 levels\n" ++ Command.usagePage⟩ ∧
    ∃ response, Service.handle ⟨{ maxNestingDepth := 0 }⟩ ⟨"POST", "/evaluate",
        some (Service.Task.mk "add(x, 2)" [("x", -7)]).json.write⟩ = .ok response ∧
      response.status = 400 ∧
      Json.read response.body = .ok (.object [("detail", .object [
        ("kind", .string "parse_failure"),
        ("message", .string "Expression nested deeper than 0 levels"),
        ("offending_text", .string "x"), ("position", .integer 4), ("name", .null)])]) := by
  have hlevel : Level.ofSetting "WARNING" = .ok .warning := by
    rw [Level.ofSetting, Text.uppercase_of_lt (by simp)]
    rfl
  have hbindings : Entries.ofPairs (Command.Assignment.repeated.map Command.Assignment.binding) =
      [("x", -7)] := by cbv
  constructor
  · have hload : Settings.load [] {} = .ok {} := by rfl
    have hreport : ((Calculator.mk 256).evaluate [("x", -7)] "div(x, 2)").report =
        ⟨true, "div(x, 2)", some (-3), some ⟨-7, 2, by decide⟩,
          ["x = -7", "div(-7, 2) = -7/2"], none⟩ := by cbv
    obtain ⟨output, response, hrun, -, hhandle, hcases, -⟩ :=
      Settings.frontEnds_agree 256 Command.Assignment.repeated "div(x, 2)"
    rw [hbindings, hreport] at hcases
    rw [hbindings] at hhandle
    obtain ⟨-, value, exact, hvalue, hexact, houtput, hstatus, hbody⟩ | ⟨hok, -⟩ := hcases
    · cases hvalue
      cases hexact
      have hprinted := hrun {} {} hload rfl hlevel
      rw [houtput] at hprinted
      exact ⟨hprinted, response, (hhandle {} rfl).1, hstatus, hbody⟩
    · cases hok
  · have hreport : ((Calculator.mk 0).evaluate [("x", -7)] "add(x, 2)").report =
        ⟨false, "add(x, 2)", none, none, [], some ⟨"parse_failure",
          "Expression nested deeper than 0 levels", some "x", some 4, none⟩⟩ := by cbv
    obtain ⟨output, response, hrun, hload, hhandle, hcases, -⟩ :=
      Settings.frontEnds_agree 0 Command.Assignment.repeated "add(x, 2)"
    rw [hbindings, hreport] at hcases
    rw [hbindings] at hhandle
    obtain ⟨hok, -⟩ | ⟨-, failure, hfailure, houtput, hstatus, hbody⟩ := hcases
    · cases hok
    · cases hfailure
      have hprinted := hrun _ _ (hload (by decide)) rfl hlevel
      rw [houtput] at hprinted
      exact ⟨hprinted, response, (hhandle { maxNestingDepth := 0 } rfl).1, hstatus, hbody⟩

end ExactCalc
