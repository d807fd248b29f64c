import VulnProbe.Proofs.Dict
import VulnProbe.Run.Probe

namespace VulnProbe

/-- What a search asks of the engine behind it. A match tells all named groups, in their order, and it
    tells of each whether it took part; a pattern matches where it has such a match. -/
structure SearchEngine where
  Pattern : Type
  /-- The pattern that a text writes, or why it writes none. -/
  compile : String → Except String Pattern
  names : Pattern → List String
  /-- The named groups of the first match in a body, each with its bytes if it took part. -/
  captures? : Pattern → List UInt8 → Option (List (String × Option (List UInt8)))
  isMatch : Pattern → List UInt8 → Bool
  keys_captures? : ∀ {p body groups}, captures? p body = some groups → Dict.keys groups = names p
  isMatch_eq : ∀ p body, isMatch p body = (captures? p body).isSome

namespace SearchEngine

/-- The search of a body for evidence. -/
def extractCaptures? (engine : SearchEngine) (pattern : String) (body : List UInt8) :
    Option (Dict String) :=
  match engine.compile pattern with
  | .error _ => none
  | .ok p =>
    if (engine.names p).isEmpty then none
    else (engine.captures? p body).map fun groups =>
      Dict.ofList (groups.map fun (name, bytes) => (name, Expr.groupText bytes))

/-- The method that tells the named groups of a match. -/
def submatch (engine : SearchEngine) (pattern : String) (body : List UInt8) : Expr.Outcome Value :=
  match engine.compile pattern with
  | .error message => .error (.badPattern pattern message)
  | .ok p =>
    .ok (.map (match engine.captures? p body with
      | none => []
      | some groups =>
        Dict.ofList (groups.map fun (name, bytes) => (name, .string (Expr.groupText bytes)))))

/-- The method that tells whether there is a match. -/
def matchTest (engine : SearchEngine) (pattern : String) (body : List UInt8) : Expr.Outcome Value :=
  match engine.compile pattern with
  | .error message => .error (.badPattern pattern message)
  | .ok p => .ok (.bool (engine.isMatch p body))

end SearchEngine

/-- What a search for evidence comes to and what the two methods do tell the same. -/
structure SearchAgrees (compiles : Prop) (evidence : Option (Dict String))
    (submatch matchTest : Expr.Outcome Value) : Prop where
  /-- A text that is no pattern gives no evidence, and the method fails. -/
  malformed : ¬ compiles → evidence = none ∧ ∃ issue, submatch = .error issue
  /-- Evidence is what the method tells, as texts, and there is a match. -/
  found : ∀ captures, evidence = some captures →
    submatch = .ok (.map (captures.mapValues .string)) ∧ matchTest = .ok (.bool true)
  /-- Without evidence there is nothing to tell. -/
  notFound : compiles → evidence = none → submatch = .ok (.map [])

namespace SearchEngine

variable {pattern : String} {body : List UInt8}

private theorem mapValues_groupTexts (groups : List (String × Option (List UInt8))) :
    Dict.mapValues Value.string
        (Dict.ofList (groups.map fun (name, bytes) => (name, Expr.groupText bytes))) =
      Dict.ofList (groups.map fun (name, bytes) => (name, .string (Expr.groupText bytes))) := by
  rw [Dict.mapValues_ofList, Dict.mapValues, List.map_map]
  rfl

/-- Search and methods agree whatever engine is behind them. -/
theorem searchAgrees (engine : SearchEngine) (pattern : String) (body : List UInt8) :
    SearchAgrees (∃ p, engine.compile pattern = .ok p) (engine.extractCaptures? pattern body)
      (engine.submatch pattern body) (engine.matchTest pattern body) := by
  rw [extractCaptures?, submatch, matchTest]
  cases hcompile : engine.compile pattern with
  | error message =>
    refine ⟨fun _ => ⟨rfl, _, rfl⟩, fun _ hfound => absurd hfound (by simp), ?_⟩
    rintro ⟨p, ⟨⟩⟩
  | ok p =>
    have hcompiles : ∃ q, Except.ok (ε := String) p = .ok q := ⟨p, rfl⟩
    cases hcaptures : engine.captures? p body with
    | none =>
      simp only [hcaptures, Option.map_none, ite_self]
      exact ⟨fun hnot => absurd hcompiles hnot, fun _ hfound => absurd hfound (by simp), fun _ _ => rfl⟩
    | some groups =>
      simp only [hcaptures, Option.map_some]
      have hkeys := engine.keys_captures? hcaptures
      by_cases hnames : (engine.names p).isEmpty = true
      · -- without named groups there is no evidence, and the map of a match is empty
        have hempty : groups = [] := by
          rw [List.isEmpty_iff.mp hnames] at hkeys
          exact List.map_eq_nil_iff.mp hkeys
        rw [if_pos hnames, hempty]
        exact ⟨fun hnot => absurd hcompiles hnot, fun _ hfound => absurd hfound (by simp), fun _ _ => rfl⟩
      · rw [if_neg hnames, engine.isMatch_eq, hcaptures]
        refine ⟨fun hnot => absurd hcompiles hnot, fun captures hfound => ?_,
          fun _ hnone => absurd hnone (by simp)⟩
        cases hfound
        rw [mapValues_groupTexts]
        exact ⟨rfl, rfl⟩

end SearchEngine

namespace Regex

private theorem keys_captures? {r : Regex} {body : List UInt8} {groups : List (String × Option (List UInt8))}
    (hgroups : r.captures? body = some groups) : Dict.keys groups = r.groups.filterMap (·.2) := by
  rw [captures?] at hgroups
  obtain ⟨slots, -, rfl⟩ := Option.map_eq_some_iff.mp hgroups
  rw [Dict.keys, List.map_filterMap]
  apply List.filterMap_congr
  rintro ⟨index, name⟩ -
  cases name <;> rfl

/-- The engine of patterns over bytes. -/
def searchEngine : SearchEngine where
  Pattern := Regex
  compile pattern := (compile pattern).mapError Issue.message
  names r := r.groups.filterMap (·.2)
  captures? := captures?
  isMatch := isMatch
  keys_captures? := keys_captures?
  isMatch_eq r body := by rw [isMatch, captures?, Option.isSome_map]

private theorem exists_compile_iff {pattern : String} :
    (∃ p, searchEngine.compile pattern = .ok p) ↔ ∃ r, compile pattern = .ok r := by
  simp only [searchEngine]
  cases compile pattern <;> simp [Except.mapError]

/-- The search of a response body is that of the engine. -/
theorem extractCaptures?_searchEngine (pattern : String) (body : List UInt8) :
    searchEngine.extractCaptures? pattern body = extractCaptures? pattern body := by
  rw [SearchEngine.extractCaptures?, VulnProbe.extractCaptures?]
  simp only [searchEngine]
  cases compile pattern with
  | error issue => rfl
  | ok r =>
    have hnames : (r.groups.filterMap (·.2)).isEmpty = r.groups.all (·.2.isNone) := by
      rw [Bool.eq_iff_iff, List.isEmpty_iff, List.filterMap_eq_nil_iff, List.all_eq_true]
      simp only [Option.isNone_iff_eq_none]
    simp only [Except.mapError, hnames]

/-- A text as a receiver is compiled by the engine. -/
theorem patternArg_string (method pattern : String) :
    Expr.patternArg method (.string pattern) =
      (compile pattern).mapError fun issue => .badPattern pattern issue.message := by
  rw [Expr.patternArg, Expr.textArg]
  simp only [bind, Except.bind]
  cases compile pattern <;> rfl

private theorem callMethod_bsubmatch (pattern : String) (body : List UInt8) :
    Expr.callMethod (.string pattern) "bsubmatch" [.bytes body] =
      searchEngine.submatch pattern body := by
  have hmethod : Expr.Method.ofName? "bsubmatch" = some .bsubmatch := by decide
  rw [Expr.callMethod, hmethod, SearchEngine.submatch]
  simp only [searchEngine, Expr.Method.apply, Expr.oneArg, patternArg_string]
  cases compile pattern <;> rfl

private theorem callMethod_bmatches (pattern : String) (body : List UInt8) :
    Expr.callMethod (.string pattern) "bmatches" [.bytes body] =
      searchEngine.matchTest pattern body := by
  have hmethod : Expr.Method.ofName? "bmatches" = some .bmatches := by decide
  rw [Expr.callMethod, hmethod, SearchEngine.matchTest]
  simp only [searchEngine, Expr.Method.apply, Expr.oneArg, patternArg_string]
  cases compile pattern <;> rfl

end Regex

/-- The search for evidence in a body and the methods on patterns tell the same, with the engine that
    they run on and with any other. -/
theorem extractCaptures?_agrees (pattern : String) (body : List UInt8) :
    SearchAgrees (∃ r, Regex.compile pattern = .ok r) (extractCaptures? pattern body)
      (Expr.callMethod (.string pattern) "bsubmatch" [.bytes body])
      (Expr.callMethod (.string pattern) "bmatches" [.bytes body]) ∧
    ∀ engine : SearchEngine,
      SearchAgrees (∃ p, engine.compile pattern = .ok p) (engine.extractCaptures? pattern body)
        (engine.submatch pattern body) (engine.matchTest pattern body) := by
  refine ⟨?_, fun engine => engine.searchAgrees pattern body⟩
  rw [Regex.callMethod_bsubmatch, Regex.callMethod_bmatches, ← Regex.extractCaptures?_searchEngine,
    ← Regex.exists_compile_iff]
  exact Regex.searchEngine.searchAgrees pattern body

end VulnProbe
