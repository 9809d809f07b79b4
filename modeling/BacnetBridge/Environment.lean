import BacnetBridge.Keyed
import BacnetBridge.OverrideOrder

/-! `collect_env_overrides`: from environment variables to overrides, and what one
variable does to the configuration. -/
namespace BacnetBridge

/-! ## Names -/

/-- `to_lowercase`. `unicode` stands for it on strings that are not ASCII. -/
def toLowercase (unicode : String → String) (s : String) : String :=
  if s.toList.all fun c => c.toNat < 128 then String.ofList (s.toList.map Char.toLower)
  else unicode s

/-- `replace("__", ".")`. -/
def replaceUnderscores : List Char → List Char
  | '_' :: '_' :: rest => '.' :: replaceUnderscores rest
  | c :: rest => c :: replaceUnderscores rest
  | [] => []

def envPrefix : String := "BACNET_BRIDGE_"

/-- The path that a variable's name stands for. -/
def overridePath (unicode : String → String) (name : String) : String :=
  let suffix := String.ofList (name.toList.drop envPrefix.length)
  String.ofList (replaceUnderscores (toLowercase unicode suffix).toList)

/-- A variable that is an override. -/
def IsOverride (var : String × String) : Bool := envPrefix.toList.isPrefixOf var.1.toList

/-- Of variables whose names stand for one path, the last is collected. -/
def collectEnvOverrides (unicode : String → String) (vars : List (String × String)) :
    List (String × String) :=
  Keyed.putAll Prod.fst ((vars.filter IsOverride).map fun v => (overridePath unicode v.1, v.2)) []

/-- A character of a path as it stands in a variable's name. -/
def spelled (c : Char) : List Char := if c = '.' then ['_', '_'] else [c.toUpper]

/-- The variable of a field: its path in upper case, with `__` for each dot. -/
def Key.variable (k : Key) : String :=
  envPrefix ++ String.ofList (k.path.toList.flatMap spelled)

theorem ascii_spelled (k : Key) : (k.path.toList.flatMap spelled).all fun c => c.toNat < 128 := by
  cases k <;> decide +kernel

theorem replace_spelled (k : Key) :
    replaceUnderscores ((k.path.toList.flatMap spelled).map Char.toLower) = k.path.toList := by
  cases k <;> decide +kernel

theorem overridePath_variable (unicode : String → String) (k : Key) :
    overridePath unicode k.variable = k.path := by
  have hsuffix : k.variable.toList.drop envPrefix.length = k.path.toList.flatMap spelled := by
    rw [Key.variable, String.toList_append, String.toList_ofList]
    exact List.drop_left' String.length_toList
  have hlower : toLowercase unicode (String.ofList (k.path.toList.flatMap spelled)) =
      String.ofList ((k.path.toList.flatMap spelled).map Char.toLower) := by
    unfold toLowercase
    rw [String.toList_ofList, if_pos (ascii_spelled k)]
  unfold overridePath
  simp only [hsuffix, hlower, String.toList_ofList, replace_spelled, String.ofList_toList]

example : overridePath id "BACNET_BRIDGE_ROUTER__LAN__PORT" = "router.lan.port" := by decide

theorem reached_path (k : Key) : reached k.path = some k := by
  cases k <;> decide +kernel

/-! ## One variable -/

/-- The field holds the value, when its text is a literal of the field's type, and
what it held before otherwise; all others hold what they held. -/
structure SetAlone (k : Key) (value : String) (c c' : BridgeConfig) : Prop where
  field : c'.view k = (k.kind.parse value).getD (c.view k)
  others : ∀ other, other ≠ k → c'.view other = c.view other
  bdt : c'.bdt = c.bdt

theorem applyOverrides_variable (unicode : String → String) (c : BridgeConfig) (k : Key)
    (value : String) {vars : List (String × String)}
    (hvars : vars.filter IsOverride = [(k.variable, value)]) :
    applyOverrides c (collectEnvOverrides unicode vars) = (k.parse value).elim c (c.put k) := by
  have hcollect : collectEnvOverrides unicode vars = [(k.path, value)] := by
    unfold collectEnvOverrides
    rw [hvars]
    simp only [List.map_cons, List.map_nil, overridePath_variable]
    rfl
  rw [hcollect]
  change applyOverride c k.path value = _
  rw [applyOverride_eq, reached_path]
  rfl

theorem setAlone_iff (c : BridgeConfig) (k : Key) (value : String) :
    SetAlone k value c ((k.parse value).elim c (c.put k)) ↔
      (k.parse value).getD (c.view k) = (k.kind.parse value).getD (c.view k) := by
  cases hparse : k.parse value with
  | none =>
    constructor
    · intro h
      exact h.field
    · intro h
      exact ⟨h, fun _ _ => rfl, rfl⟩
  | some v =>
    have hview := c.view_put k v
    constructor
    · intro h
      rw [← h.field]
      simp [hview]
    · intro h
      refine ⟨?_, ?_, c.bdt_put k v⟩
      · rw [← h]
        simp [hview]
      · intro other hother
        simp [hview, hother]

/-- A variable sets its field alone, and only to a literal of its type, exactly if
it is not the danger flag's, or its value is `true` or `false`, or the flag already
is what the value `1` or any other makes it. -/
theorem env_override_sets_alone_iff (unicode : String → String) (c : BridgeConfig) (k : Key)
    (value : String) {vars : List (String × String)}
    (hvars : vars.filter IsOverride = [(k.variable, value)]) :
    SetAlone k value c (applyOverrides c (collectEnvOverrides unicode vars)) ↔
      (k = .dangerAcceptInvalidCerts → value = "true" ∨ value = "false" ∨
        c.router.sc.dangerAcceptInvalidCerts = (value == "1")) := by
  rw [applyOverrides_variable unicode c k value hvars, setAlone_iff]
  by_cases hdanger : k = .dangerAcceptInvalidCerts
  · subst hdanger
    by_cases htrue : value = "true"
    · subst htrue
      simp [Key.parse, Key.kind, Kind.parse, parseBool]
    by_cases hfalse : value = "false"
    · subst hfalse
      simp [Key.parse, Key.kind, Kind.parse, parseBool]
    have hliteral : parseBool value = none := by
      unfold parseBool
      split <;> simp_all
    have hset : (value == "true" || value == "1") = (value == "1") := by
      simp [htrue]
    change (value == "true" || value == "1") =
      (parseBool value).getD c.router.sc.dangerAcceptInvalidCerts ↔ _
    rw [hset, hliteral, Option.getD_none]
    simp only [htrue, hfalse, false_or, forall_const]
    exact eq_comm
  · have hparse : k.parse value = k.kind.parse value := by
      cases k <;> first | rfl | exact absurd rfl hdanger
    simp [hparse, hdanger]

/-- A port that is too large leaves the configuration as it was. -/
theorem oversized_port_is_ignored :
    SetAlone .webPort "65536" .generateDefault (applyOverrides .generateDefault
      (collectEnvOverrides id [("PATH", "/bin"), (Key.webPort.variable, "65536")])) := by
  refine (env_override_sets_alone_iff id .generateDefault .webPort "65536" ?_).mpr ?_
  · decide
  · intro h
    cases h

/-- A word that is no flag clears the flag. -/
theorem danger_flag_is_cleared :
    Kind.flag.parse "yes" = none ∧
    ∀ unicode, applyOverrides (BridgeConfig.generateDefault.put .dangerAcceptInvalidCerts true)
        (collectEnvOverrides unicode [(Key.dangerAcceptInvalidCerts.variable, "yes")]) =
          .generateDefault ∧
      ¬ SetAlone .dangerAcceptInvalidCerts "yes"
        (BridgeConfig.generateDefault.put .dangerAcceptInvalidCerts true) .generateDefault := by
  refine ⟨rfl, fun unicode => ⟨?_, ?_⟩⟩
  · rw [applyOverrides_variable unicode _ .dangerAcceptInvalidCerts "yes" (by decide)]
    rfl
  · intro h
    cases h.field

end BacnetBridge
