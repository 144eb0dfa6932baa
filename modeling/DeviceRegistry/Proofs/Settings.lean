import DeviceRegistry.Proofs.Stateful
import DeviceRegistry.Settings
import Mathlib.Data.List.DropRight

/-! Which settings the variables of an environment make, and which error is reported when they make
none: that of the first variable at fault, where values of blanks count for nothing. -/
namespace DeviceRegistry

namespace Text

/-- A text in white space, whose own ends are something else, is what trimming leaves. -/
theorem trimList_between {p : Char → Bool} {front middle back : List Char}
    (before : ∀ c ∈ front, p c) (inside : ∀ c ∈ middle, p c = false) (some : middle ≠ [])
    (after : ∀ c ∈ back, p c) : trimList p (front ++ middle ++ back) = middle := by
  have behind : (middle ++ back).dropWhile p = middle ++ back := by
    obtain ⟨c, rest, rfl⟩ := List.exists_cons_of_ne_nil some
    exact List.dropWhile_cons_of_neg (by simp [inside c])
  have ahead : middle.reverse.dropWhile p = middle.reverse := by
    obtain ⟨rest, c, rfl⟩ := List.eq_nil_or_concat middle |>.resolve_left some
    rw [List.concat_eq_append, List.reverse_append]
    exact List.dropWhile_cons_of_neg (by simp [inside c])
  rw [trimList, List.append_assoc, List.dropWhile_append_of_pos before, behind,
    List.reverse_append, List.dropWhile_append_of_pos (by simpa using after), ahead,
    List.reverse_reverse]

/-- Trimming takes nothing but white space away. -/
theorem eq_append_trimList (p : Char → Bool) (cs : List Char) :
    ∃ front back, cs = front ++ trimList p cs ++ back ∧ (∀ c ∈ front, p c) ∧ ∀ c ∈ back, p c := by
  refine ⟨cs.takeWhile p, (cs.dropWhile p).rtakeWhile p, ?_, fun c => List.mem_takeWhile_imp,
    fun c => List.mem_rtakeWhile_imp⟩
  calc cs = cs.takeWhile p ++ cs.dropWhile p := List.takeWhile_append_dropWhile.symm
    _ = cs.takeWhile p ++ ((cs.dropWhile p).rdropWhile p ++ (cs.dropWhile p).rtakeWhile p) := by
      rw [List.rdropWhile_append_rtakeWhile]
    _ = cs.takeWhile p ++ trimList p cs ++ (cs.dropWhile p).rtakeWhile p :=
      (List.append_assoc ..).symm

theorem trim_eq_empty_iff (s : String) : trim s = "" ↔ isBlankText s = true := by
  rw [trim, String.ofList_eq_empty_iff, isBlankText, List.all_eq_true]
  constructor
  · intro none
    obtain ⟨front, back, whole, before, after⟩ := eq_append_trimList isBlank s.toList
    rw [none, List.append_nil] at whole
    intro c member
    rw [whole] at member
    exact (List.mem_append.mp member).elim (before c) (after c)
  · intro blank
    rw [trimList, List.dropWhile_eq_nil_iff.mpr blank]
    rfl

theorem toLower_of_isBlank {c : Char} (blank : isBlank c = true) : c.toLower = c := by
  have outside : ¬(c.val ≥ 'A'.val ∧ c.val ≤ 'Z'.val) := by
    rintro ⟨low, high⟩
    have low : 65 ≤ c.toNat := low
    have high : c.toNat ≤ 90 := high
    simp [isBlank] at blank
    omega
  exact dif_neg outside

end Text

namespace Settings
open Text

/-- What a value spells: a word, whatever the case of its letters and whatever blanks stand around
it. -/
def Spells (value word : String) : Prop :=
  ∃ front middle back, value.toList = front ++ middle ++ back ∧ (∀ c ∈ front ++ back, isBlank c) ∧
    middle.map Char.toLower = word.toList

theorem spells_iff {value word : String} (some : word.toList ≠ [])
    (solid : word.toList.any isBlank = false) :
    Spells value word ↔ String.ofList ((trim value).toList.map Char.toLower) = word := by
  rw [← String.toList_inj, String.toList_ofList, trim, String.toList_ofList]
  constructor
  · rintro ⟨front, middle, back, whole, blank, lowered⟩
    -- a blank is its own lower case, so one in the middle would be one of the word
    have inside : ∀ c ∈ middle, isBlank c = false := by
      intro c member
      by_contra h
      have blankC : isBlank c = true := by simpa using h
      have kept : c ∈ word.toList := by
        rw [← lowered, ← toLower_of_isBlank blankC]
        exact List.mem_map_of_mem member
      exact List.any_eq_false.mp solid c kept blankC
    have left : middle ≠ [] := by
      rintro rfl
      exact some lowered.symm
    rw [whole, trimList_between (fun c member => blank c (List.mem_append_left _ member)) inside
      left fun c member => blank c (List.mem_append_right _ member), lowered]
  · intro lowered
    obtain ⟨front, back, whole, before, after⟩ := eq_append_trimList isBlank value.toList
    refine ⟨front, _, back, whole, fun c member => ?_, lowered⟩
    exact (List.mem_append.mp member).elim (before c) (after c)

/-- The words for yes, or for no. -/
def words : Bool → List String
  | true => ["1", "true", "yes", "on"]
  | false => ["0", "false", "no", "off"]

/-- A value is one of the words for yes, or for no. -/
def Means (value : String) (b : Bool) : Prop := ∃ word ∈ words b, Spells value word

theorem means_iff (value : String) (b : Bool) :
    Means value b ↔ String.ofList ((trim value).toList.map Char.toLower) ∈ words b := by
  have solid : ∀ word ∈ words b,
      word.toList ≠ [] ∧ word.toList.any isBlank = false := by
    cases b <;> decide
  constructor
  · rintro ⟨word, member, spelled⟩
    rwa [(spells_iff (solid word member).1 (solid word member).2).mp spelled]
  · intro member
    exact ⟨_, member, (spells_iff (solid _ member).1 (solid _ member).2).mpr rfl⟩

theorem flag?_eq_some_iff (value : String) (b : Bool) : flag? value = some b ↔ Means value b := by
  have apart : ∀ word ∈ words true, word ∉ words false := by decide
  rw [means_iff, flag?]
  split
  next yes =>
    rw [List.contains_iff_mem] at yes
    cases b with
    | true => exact iff_of_true rfl yes
    | false => exact iff_of_false nofun (apart _ yes)
  next notYes =>
    rw [List.contains_iff_mem] at notYes
    split
    next no =>
      rw [List.contains_iff_mem] at no
      cases b with
      | true => exact iff_of_false nofun notYes
      | false => exact iff_of_true rfl no
    next notNo =>
      rw [List.contains_iff_mem] at notNo
      cases b with
      | true => exact iff_of_false nofun notYes
      | false => exact iff_of_false nofun notNo

variable {environment : String → Option String}

/-- The environment without values of blanks in the variables that are read. -/
def tidied (environment : String → Option String) (name : String) : Option String :=
  if name ∈ variableNames then (environment name).filter (trim · ≠ "") else environment name

/-- What settings have to do with the variables of a tidy environment. The password and the paths
are as they stand there, blanks at their ends included. -/
structure Configures (environment : String → Option String) (settings : Settings) : Prop where
  listenAddress : SocketAddress.parse? ((environment addressVariable).getD defaultAddress) =
    some settings.listenAddress
  encoderUrl : ∃ text, environment encoderVariable = some text ∧
    Url.parse text = .ok settings.encoderUrl
  databasePath : settings.databasePath =
    (environment databaseVariable).getD defaultDatabasePath
  password : environment passwordVariable = some settings.password
  verbose : ((environment verboseVariable).elim (settings.verbose = false) fun text =>
    Means text settings.verbose)
  certificate : settings.tls.map TlsPaths.certificate = environment certificateVariable
  key : settings.tls.map TlsPaths.key = environment keyVariable
  logFormat : settings.logFormat = .json ↔ environment logVariable = some "json"

/-- A tidy environment that makes settings. -/
structure Acceptable (environment : String → Option String) : Prop where
  address : ∀ text, environment addressVariable = some text →
    ∃ address, SocketAddress.parse? text = some address
  encoder : ∃ text url, environment encoderVariable = some text ∧ Url.parse text = .ok url
  password : ∃ text, environment passwordVariable = some text
  verbose : ∀ text, environment verboseVariable = some text → ∃ b, Means text b
  tls : (environment certificateVariable).isSome ↔ (environment keyVariable).isSome

/-- The errors that a tidy environment gives cause for. Of the paths for TLS it is the missing one
that is at fault. -/
inductive Offends (environment : String → Option String) : SettingsError → Prop
  | address {text} : environment addressVariable = some text → SocketAddress.parse? text = none →
      Offends environment (.invalid addressVariable "invalid socket address syntax")
  | encoderMissing : environment encoderVariable = none →
      Offends environment (.missing encoderVariable)
  | encoder {text e} : environment encoderVariable = some text → Url.parse text = .error e →
      Offends environment (.invalid encoderVariable e.message)
  | password : environment passwordVariable = none →
      Offends environment (.missing passwordVariable)
  | verbose {text} : environment verboseVariable = some text → (∀ b, ¬Means text b) →
      Offends environment (.invalid verboseVariable ("expected a boolean, got " ++ quoted text))
  | certificate {text} : environment keyVariable = some text →
      environment certificateVariable = none → Offends environment (.missing certificateVariable)
  | key {text} : environment certificateVariable = some text →
      environment keyVariable = none → Offends environment (.missing keyVariable)

/-- The variables that may be at fault, in the order in which they are looked at. -/
def order : List String :=
  [addressVariable, encoderVariable, passwordVariable, verboseVariable, certificateVariable,
    keyVariable]

/-- Nothing is wrong with the first variables, up to a position in the order. -/
def Clear (environment : String → Option String) (position : Nat) : Prop :=
  ∀ e, Offends environment e → position ≤ order.idxOf e.name

/-- The error of the first variable that is at fault. -/
def Reports (environment : String → Option String) (e : SettingsError) : Prop :=
  Offends environment e ∧ Clear environment (order.idxOf e.name)

@[simp] theorem idxOf_address : order.idxOf addressVariable = 0 := by decide
@[simp] theorem idxOf_encoder : order.idxOf encoderVariable = 1 := by decide
@[simp] theorem idxOf_password : order.idxOf passwordVariable = 2 := by decide
@[simp] theorem idxOf_verbose : order.idxOf verboseVariable = 3 := by decide
@[simp] theorem idxOf_certificate : order.idxOf certificateVariable = 4 := by decide
@[simp] theorem idxOf_key : order.idxOf keyVariable = 5 := by decide

/-- A check of the variables from one position to another. It succeeds with something good when
nothing is wrong with them, and otherwise reports the first that is at fault. -/
structure Examines {α : Type} (environment : String → Option String) (low high : Nat)
    (x : Except SettingsError α) (good : α → Prop) : Prop where
  outcome : Clear environment low →
    match x with
    | .ok a => good a ∧ Clear environment high
    | .error e => Reports environment e

variable {α β : Type} {low middle high : Nat} {x : Except SettingsError α}
  {f : α → Except SettingsError β} {good : α → Prop} {better : β → Prop}

theorem Examines.bind (first : Examines environment low middle x good)
    (next : ∀ a, good a → Examines environment middle high (f a) better) :
    Examines environment low high (x >>= f) better := by
  constructor
  intro clear
  have first := first.outcome clear
  cases x with
  | error e => exact first
  | ok a => exact (next a first.1).outcome first.2

theorem Examines.pure {a : α} (h : good a) : Examines environment low low (Pure.pure a) good :=
  ⟨fun clear => ⟨h, clear⟩⟩

theorem Clear.next {position : Nat} (clear : Clear environment position)
    (none : ∀ e, Offends environment e → order.idxOf e.name ≠ position) :
    Clear environment (position + 1) :=
  fun e offence => Nat.lt_of_le_of_ne (clear e offence) (none e offence).symm

theorem addressOf_examines :
    Examines environment 0 1 (addressOf ((environment addressVariable).getD defaultAddress))
      fun address => SocketAddress.parse? ((environment addressVariable).getD defaultAddress) =
        some address := by
  constructor
  intro clear
  unfold addressOf
  cases parsed : SocketAddress.parse? ((environment addressVariable).getD defaultAddress) with
  | some address =>
    simp only [true_and]
    refine clear.next fun e offence => ?_
    cases offence with
    | address given wrong => simp [given, wrong] at parsed
    | _ => simp [SettingsError.name]
  | none =>
    simp only
    cases given : environment addressVariable with
    | some text =>
      rw [given] at parsed
      exact ⟨.address given parsed, by simpa [SettingsError.name] using clear⟩
    | none =>
      have default : SocketAddress.parse? defaultAddress ≠ none := by decide +kernel
      rw [given] at parsed
      exact absurd parsed default

theorem required_examines {name : String} (position : order.idxOf name = low)
    (missing : environment name = none → Offends environment (.missing name))
    (present : ∀ text, environment name = some text → Clear environment low →
      Clear environment high) :
    Examines environment low high (required name (environment name))
      fun text => environment name = some text := by
  subst position
  constructor
  intro clear
  cases given : environment name with
  | none => exact ⟨missing given, clear⟩
  | some text => exact ⟨rfl, present text given clear⟩

theorem encoderUrlOf_examines {text : String} (given : environment encoderVariable = some text) :
    Examines environment 1 2 (encoderUrlOf text) fun url => Url.parse text = .ok url := by
  constructor
  intro clear
  cases parsed : Url.parse text with
  | error e =>
    simp only [encoderUrlOf, parsed, Except.mapError]
    exact ⟨.encoder given parsed, by simpa [SettingsError.name] using clear⟩
  | ok url =>
    simp only [encoderUrlOf, parsed, Except.mapError, true_and]
    refine clear.next fun e offence => ?_
    cases offence with
    | encoderMissing missing => simp [given] at missing
    | encoder given' wrong =>
      cases given.symm.trans given'
      simp [parsed] at wrong
    | _ => simp [SettingsError.name]

theorem password_examines :
    Examines environment 2 3 (required passwordVariable (environment passwordVariable))
      fun text => environment passwordVariable = some text :=
  required_examines idxOf_password .password fun text given clear => clear.next fun e offence => by
    cases offence with
    | password missing => simp [given] at missing
    | _ => simp [SettingsError.name]

theorem unset_verbose_examines (unset : environment verboseVariable = none) :
    Examines environment 3 4 (pure false) fun verbose => verbose = false := by
  constructor
  refine fun clear => ⟨rfl, clear.next fun e offence => ?_⟩
  cases offence with
  | verbose given => simp [unset] at given
  | _ => simp [SettingsError.name]

theorem flagOf_examines {text : String} (given : environment verboseVariable = some text) :
    Examines environment 3 4 (flagOf text) (Means text) := by
  constructor
  intro clear
  unfold flagOf
  cases read : flag? text with
  | some b =>
    have meant : Means text b := (flag?_eq_some_iff text b).mp read
    simp only
    refine ⟨meant, clear.next fun e offence => ?_⟩
    cases offence with
    | verbose given' wrong =>
      cases given.symm.trans given'
      exact absurd meant (wrong b)
    | _ => simp [SettingsError.name]
  | none =>
    simp only
    refine ⟨.verbose given fun b meant => ?_, by simpa [SettingsError.name] using clear⟩
    simp [(flag?_eq_some_iff text b).mpr meant] at read

theorem tlsOf_examines :
    Examines environment 4 6 (tlsOf (environment certificateVariable) (environment keyVariable))
      fun tls => tls.map TlsPaths.certificate = environment certificateVariable ∧
        tls.map TlsPaths.key = environment keyVariable := by
  constructor
  intro clear
  cases certificate : environment certificateVariable with
  | some c =>
    cases key : environment keyVariable with
    | some k =>
      refine ⟨⟨rfl, rfl⟩, fun e offence => ?_⟩
      have later := clear e offence
      cases offence with
      | certificate _ missing => simp [certificate] at missing
      | key _ missing => simp [key] at missing
      | _ => simp [SettingsError.name] at later
    | none =>
      refine ⟨.key certificate key, fun e offence => ?_⟩
      have later := clear e offence
      cases offence with
      | certificate _ missing => simp [certificate] at missing
      | key => exact Nat.le_refl _
      | _ => simp [SettingsError.name] at later
  | none =>
    cases key : environment keyVariable with
    | some k => exact ⟨.certificate key certificate, by simpa [SettingsError.name] using clear⟩
    | none =>
      refine ⟨⟨rfl, rfl⟩, fun e offence => ?_⟩
      have later := clear e offence
      cases offence with
      | certificate given => simp [key] at given
      | key given => simp [certificate] at given
      | _ => simp [SettingsError.name] at later

theorem filter_eq_tidied (environment : String → Option String) {name : String}
    (read : name ∈ variableNames) :
    (environment name).filter (!isBlankText ·) = tidied environment name := by
  have same : (fun text => !isBlankText text) = fun text => decide (trim text ≠ "") := by
    funext text
    rw [Bool.eq_iff_iff, decide_eq_true_iff, Ne, trim_eq_empty_iff]
    simp
  rw [tidied, if_pos read, same]

/-- All checks together, one after the other. -/
theorem ofVariables_examines (environment : String → Option String) :
    Examines (tidied environment) 0 6 (ofVariables environment)
      (Configures (tidied environment)) := by
  have tidy : ∀ name ∈ variableNames,
      (environment name).filter (!isBlankText ·) = tidied environment name :=
    fun name => filter_eq_tidied environment
  simp only [variableNames, List.forall_mem_cons] at tidy
  have logged : (if (environment logVariable).filter (!isBlankText ·) = some "json"
      then LogFormat.json else .pretty) = .json ↔
      tidied environment logVariable = some "json" := by
    rw [← filter_eq_tidied environment (by decide)]
    simp
  unfold ofVariables
  dsimp only
  generalize (if (environment logVariable).filter (!isBlankText ·) = some "json"
    then LogFormat.json else .pretty) = logFormat at logged ⊢
  simp only [tidy]
  refine addressOf_examines.bind fun listenAddress address => ?_
  refine (required_examines idxOf_encoder .encoderMissing fun _ _ clear => clear).bind
    fun text given => ?_
  refine (encoderUrlOf_examines given).bind fun encoderUrl parsed => ?_
  refine password_examines.bind fun password secret => ?_
  -- what follows the flag is the same whether or not it is set
  have rest (verbose : Bool)
      (meant : (tidied environment verboseVariable).elim (verbose = false) (Means · verbose)) :
      Examines (tidied environment) 4 6
        (tlsOf (tidied environment certificateVariable) (tidied environment keyVariable) >>=
          fun tls => pure
            { listenAddress, encoderUrl, password, verbose, tls
              databasePath := (tidied environment databaseVariable).getD defaultDatabasePath
              logFormat })
        (Configures (tidied environment)) :=
    tlsOf_examines.bind fun tls paths => .pure
      { listenAddress := address
        encoderUrl := ⟨text, given, parsed⟩
        databasePath := rfl
        password := secret
        verbose := meant
        certificate := paths.1
        key := paths.2
        logFormat := logged }
  cases flag : tidied environment verboseVariable with
  | none =>
    dsimp only
    refine (unset_verbose_examines flag).bind fun verbose off => ?_
    exact rest verbose (by simpa [flag] using off)
  | some text =>
    dsimp only
    refine (flagOf_examines flag).bind fun verbose meant => ?_
    exact rest verbose (by simpa [flag] using meant)

/-- The variables leave no choice of settings. -/
theorem Configures.unique {settings others : Settings} (h : Configures environment settings)
    (h' : Configures environment others) : settings = others := by
  obtain ⟨text, given, parsed⟩ := h.encoderUrl
  obtain ⟨text', given', parsed'⟩ := h'.encoderUrl
  have listenAddress := Option.some.inj (h.listenAddress.symm.trans h'.listenAddress)
  have encoderUrl : settings.encoderUrl = others.encoderUrl := by
    cases given.symm.trans given'
    exact Except.ok.inj (parsed.symm.trans parsed')
  have databasePath := h.databasePath.trans h'.databasePath.symm
  have password := Option.some.inj (h.password.symm.trans h'.password)
  have verbose : settings.verbose = others.verbose := by
    have first := h.verbose
    have second := h'.verbose
    cases flag : environment verboseVariable with
    | none =>
      rw [flag] at first second
      exact Eq.trans first (Eq.symm second)
    | some text =>
      rw [flag] at first second
      have first := (flag?_eq_some_iff text _).mpr first
      have second := (flag?_eq_some_iff text _).mpr second
      exact Option.some.inj (first.symm.trans second)
  have tls : settings.tls = others.tls := by
    have certificates := h.certificate.trans h'.certificate.symm
    have keys := h.key.trans h'.key.symm
    rcases first : settings.tls with _ | ⟨c, k⟩ <;>
      rcases second : others.tls with _ | ⟨c', k'⟩ <;> simp_all
  have logFormat : settings.logFormat = others.logFormat := by
    have same := h.logFormat.trans h'.logFormat.symm
    cases first : settings.logFormat <;> cases second : others.logFormat <;> simp_all
  cases settings
  cases others
  simp_all

theorem Acceptable.not_offends (h : Acceptable environment) (e : SettingsError) :
    ¬Offends environment e := by
  intro offence
  cases offence with
  | address given wrong =>
    obtain ⟨address, parsed⟩ := h.address _ given
    simp [parsed] at wrong
  | encoderMissing missing =>
    obtain ⟨text, url, given, parsed⟩ := h.encoder
    simp [given] at missing
  | encoder given wrong =>
    obtain ⟨text, url, given', parsed⟩ := h.encoder
    cases given.symm.trans given'
    simp [parsed] at wrong
  | password missing =>
    obtain ⟨text, given⟩ := h.password
    simp [given] at missing
  | verbose given wrong =>
    obtain ⟨b, meant⟩ := h.verbose _ given
    exact wrong b meant
  | certificate given missing => simpa [given, missing] using h.tls
  | key given missing => simpa [given, missing] using h.tls

theorem Configures.acceptable {settings : Settings} (h : Configures environment settings) :
    Acceptable environment where
  address text given := ⟨settings.listenAddress, by simpa [given] using h.listenAddress⟩
  encoder := by
    obtain ⟨text, given, parsed⟩ := h.encoderUrl
    exact ⟨text, _, given, parsed⟩
  password := ⟨_, h.password⟩
  verbose text given := ⟨settings.verbose, by simpa [given] using h.verbose⟩
  tls := by rw [← h.certificate, ← h.key, Option.isSome_map, Option.isSome_map]

/-- The first error at fault is one. -/
theorem Reports.unique {e other : SettingsError} (h : Reports environment e)
    (h' : Reports environment other) : e = other := by
  have position := Nat.le_antisymm (h.2 other h'.1) (h'.2 e h.1)
  obtain ⟨offence, -⟩ := h
  obtain ⟨offence', -⟩ := h'
  cases offence <;> cases offence' <;> simp_all [SettingsError.name]

theorem configures_of_ok {settings : Settings} (h : ofVariables environment = .ok settings) :
    Configures (tidied environment) settings := by
  have outcome := (ofVariables_examines environment).outcome fun _ _ => Nat.zero_le _
  rw [h] at outcome
  exact outcome.1

theorem reports_of_error {e : SettingsError} (h : ofVariables environment = .error e) :
    Reports (tidied environment) e := by
  have outcome := (ofVariables_examines environment).outcome fun _ _ => Nat.zero_le _
  rw [h] at outcome
  exact outcome

theorem exists_ok_iff (environment : String → Option String) :
    (∃ settings, ofVariables environment = .ok settings) ↔ Acceptable (tidied environment) := by
  constructor
  · rintro ⟨settings, made⟩
    exact (configures_of_ok made).acceptable
  · intro acceptable
    cases made : ofVariables environment with
    | ok settings => exact ⟨settings, rfl⟩
    | error e => exact absurd (reports_of_error made).1 (acceptable.not_offends e)

theorem ok_of_configures {settings : Settings} (h : Configures (tidied environment) settings) :
    ofVariables environment = .ok settings := by
  obtain ⟨others, made⟩ := (exists_ok_iff environment).mpr h.acceptable
  rw [made, h.unique (configures_of_ok made)]

theorem error_of_reports {e : SettingsError} (h : Reports (tidied environment) e) :
    ofVariables environment = .error e := by
  cases made : ofVariables environment with
  | ok settings => exact absurd h.1 ((configures_of_ok made).acceptable.not_offends e)
  | error other => rw [h.unique (reports_of_error made)]

theorem ofVariables_congr {others : String → Option String}
    (same : ∀ name ∈ variableNames, tidied environment name = tidied others name) :
    ofVariables environment = ofVariables others := by
  have read : ∀ name ∈ variableNames, (environment name).filter (!isBlankText ·) =
      (others name).filter (!isBlankText ·) := by
    intro name member
    rw [filter_eq_tidied environment member, filter_eq_tidied others member, same name member]
  simp only [variableNames, List.forall_mem_cons] at read
  unfold ofVariables
  simp only [read]

/-- Whether the variables of an environment make settings depends on them only as far as they are
not blank. They make the settings that they ask for if all are acceptable, and otherwise the first
that is at fault is reported. -/
theorem ofVariables_exactly :
    (∀ environment others : String → Option String,
      (∀ name ∈ variableNames, tidied environment name = tidied others name) →
        ofVariables environment = ofVariables others) ∧
    ∀ environment : String → Option String,
      (∀ settings, ofVariables environment = .ok settings ↔
        Configures (tidied environment) settings) ∧
      ((∃ settings, ofVariables environment = .ok settings) ↔
        Acceptable (tidied environment)) ∧
      ∀ e, ofVariables environment = .error e ↔ Reports (tidied environment) e :=
  ⟨fun _ _ => ofVariables_congr, fun environment => ⟨fun _ => ⟨configures_of_ok, ok_of_configures⟩,
    exists_ok_iff environment, fun _ => ⟨reports_of_error, error_of_reports⟩⟩⟩

/-- A blank path for the key counts as none, so that there is no TLS, while another one wants a
certificate. The password keeps its blanks. -/
theorem ofVariables_exactly_blank :
    let named (key : Option String) (name : String) : Option String :=
      if name = encoderVariable then some "http://[::1]:8081"
      else if name = passwordVariable then some " secret "
      else if name = verboseVariable then some " YES\t"
      else if name = keyVariable then key
      else none
    (∀ name ∈ variableNames, tidied (named (some "\u2003")) name = tidied (named none) name) ∧
      ((ofVariables (named (some "\u2003"))).toOption.map
        fun settings => (settings.password, settings.verbose, settings.tls)) =
          some (" secret ", true, none) ∧
      ofVariables (named (some "key.pem")) = .error (.missing certificateVariable) ∧
      Reports (tidied (named (some "key.pem"))) (.missing certificateVariable) := by
  intro named
  have same : ∀ name ∈ variableNames,
      tidied (named (some "\u2003")) name = tidied (named none) name := by decide +kernel
  have made : ((ofVariables (named none)).toOption.map
      fun settings => (settings.password, settings.verbose, settings.tls)) =
        some (" secret ", true, none) := by decide +kernel
  have refused : ofVariables (named (some "key.pem")) = .error (.missing certificateVariable) := by
    decide +kernel
  refine ⟨same, ?_, refused, ((ofVariables_exactly.2 _).2.2 _).mp refused⟩
  rw [ofVariables_exactly.1 _ _ same]
  exact made

end Settings
end DeviceRegistry
