import RequestGate.CommandLine.Run
import RequestGate.Proofs.Fallible

/-!
# Options over a configuration file

A configuration file has to be sound by itself before options replace fields of its configuration, and
the result has to be sound again.  A field that an option replaces is therefore looked at in the file as
well: it does not show in a configuration that is resolved, but it can keep one from being resolved.

Main results:

- Theorem `CommandLine.Options.resolve_eq`: what options resolve to is validated twice.
- Theorem `CommandLine.Options.kept_issues_override`: options change no issue of a field that they do not
  replace.
- Theorem `CommandLine.Options.resolvesOverFile`: when a configuration is resolved, which issues are
  reported otherwise, and what a replaced field has to do with it.
-/

namespace RequestGate

namespace Config

theorem validate_eq_ok_iff {config result : Config} :
    config.validate = .ok result ↔ config.issues = [] ∧ result = config := by
  unfold validate
  cases config.issues <;> simp [eq_comm]

theorem validate_eq_error_iff {config : Config} {e : ConfigError} :
    config.validate = .error e ↔ config.issues ≠ [] ∧ e = .unsound config.issues := by
  unfold validate
  cases config.issues <;> simp [eq_comm]

/-- The default configuration is sound. -/
theorem issues_default : default.issues = [] := by
  decide +kernel

end Config

namespace CommandLine
namespace Options

variable {options : Options} {contents : Option (List UInt8)} {config : Config}

/-- The configuration whose fields options replace: the one that the file holds, if a file is named, and
the default one otherwise. -/
def written? (options : Options) (contents : Option (List UInt8)) : Option Config :=
  if options.config.isSome then (contents.bind Utf8.decode?).bind Config.ofToml? else some .default

/-- What options resolve to is validated before and after they replace its fields. -/
theorem resolve_eq (h : options.written? contents = some config) :
    options.resolve contents =
      config.validate.bind fun config => (options.override config).validate := by
  unfold written? at h
  unfold resolve
  split at h
  · rename_i hfile
    obtain ⟨text, htext, hread⟩ := Option.bind_eq_some_iff.1 h
    have hload : Config.load contents = config.validate := by
      unfold Config.load Config.parse
      rw [htext]
      simp only [hread]
    rw [if_pos hfile, hload]
    rfl
  · rename_i hfile
    cases h
    have hsound : Config.default.validate = .ok .default :=
      Config.validate_eq_ok_iff.2 ⟨Config.issues_default, rfl⟩
    rw [if_neg hfile, hsound]
    rfl

/-! ## Fields that are replaced -/

/-- The options that replace a field when they are given, with the names that issues have for the
fields. -/
def replacements (options : Options) : Fields (Option String) :=
  [("listener.bind_address", options.bind), ("upstream.address", options.service),
    ("description.path", options.spec)]

/-- The fields that options replace. -/
def replaced (options : Options) : List String :=
  (options.replacements.filter fun entry => entry.2.isSome).map Prod.fst

/-- Two configurations differ at most in fields that options replace. -/
structure AgreesApart (options : Options) (first second : Config) : Prop where
  listener : options.bind = none → first.listener = second.listener
  service : options.service = none → first.service = second.service
  description : options.spec = none → first.description = second.description
  validation : first.validation = second.validation
  timeouts : first.timeouts = second.timeouts
  observability : first.observability = second.observability

/-- Options make the same of two configurations exactly when these differ at most in fields that they
replace. -/
theorem override_eq_override_iff {first second : Config} :
    options.override first = options.override second ↔ options.AgreesApart first second := by
  obtain ⟨⟨bind⟩, ⟨service⟩, ⟨path⟩, validation, timeouts, observability⟩ := first
  obtain ⟨⟨bind'⟩, ⟨service'⟩, ⟨path'⟩, validation', timeouts', observability'⟩ := second
  constructor
  · intro h
    simp only [override, Config.mk.injEq, ListenerSettings.mk.injEq, ServiceSettings.mk.injEq,
      DescriptionSettings.mk.injEq] at h
    obtain ⟨hbind, hservice, hpath, hvalidation, htimeouts, hobservability⟩ := h
    constructor
    case listener => exact fun hnone => by simpa [hnone] using hbind
    case service => exact fun hnone => by simpa [hnone] using hservice
    case description => exact fun hnone => by simpa [hnone] using hpath
    case validation => exact hvalidation
    case timeouts => exact htimeouts
    case observability => exact hobservability
  · rintro ⟨hlistener, hservice, hdescription, rfl, rfl, rfl⟩
    have hgetD : ∀ {given : Option String} {own other : String}, (given = none → own = other) →
        given.getD own = given.getD other := by
      intro given own other h
      cases given with
      | none => exact h rfl
      | some value => rfl
    simp only [ListenerSettings.mk.injEq, ServiceSettings.mk.injEq,
      DescriptionSettings.mk.injEq] at hlistener hservice hdescription
    simp only [override, hgetD hlistener, hgetD hservice, hgetD hdescription]

/-- The issues of fields that no option replaces. -/
def kept (options : Options) (issues : List ConfigIssue) : List ConfigIssue :=
  issues.filter fun issue => issue.field ∉ options.replaced

theorem kept_append (first second : List ConfigIssue) :
    options.kept (first ++ second) = options.kept first ++ options.kept second :=
  List.filter_append first second

/-- The issue of a field that is replaced is not kept. -/
theorem kept_issueUnless_of_mem {field : String} (h : field ∈ options.replaced) (condition : Bool)
    (message : String) : options.kept (Config.issueUnless condition field message) = [] := by
  unfold Config.issueUnless kept
  cases condition <;> simp [h]

/-- Whether a field is replaced or not, the issue that it has in the end is the one that it had, or
neither of them is kept. -/
theorem kept_issueUnless_getD {given : Option String} {field : String}
    (h : (field, given) ∈ options.replacements) (condition : String → Bool)
    (message : String → String) (own : String) :
    options.kept (Config.issueUnless (condition (given.getD own)) field (message (given.getD own))) =
      options.kept (Config.issueUnless (condition own) field (message own)) := by
  cases given with
  | none => rfl
  | some value =>
    have hreplaced : field ∈ options.replaced := List.mem_map.2 ⟨_, List.mem_filter.2 ⟨h, rfl⟩, rfl⟩
    rw [kept_issueUnless_of_mem hreplaced, kept_issueUnless_of_mem hreplaced]

/-- Options change no issue of a field that they do not replace. -/
theorem kept_issues_override (config : Config) :
    options.kept (options.override config).issues = options.kept config.issues := by
  have hbind : options.kept (Config.addressIssue "listener.bind_address"
      (options.bind.getD config.listener.bindAddress)) =
        options.kept (Config.addressIssue "listener.bind_address" config.listener.bindAddress) :=
    kept_issueUnless_getD (by simp [replacements]) SocketAddress.isValid
      (fun address => "invalid socket address '" ++ address ++ "'") _
  have hservice : options.kept (Config.addressIssue "upstream.address"
      (options.service.getD config.service.address)) =
        options.kept (Config.addressIssue "upstream.address" config.service.address) :=
    kept_issueUnless_getD (by simp [replacements]) SocketAddress.isValid
      (fun address => "invalid socket address '" ++ address ++ "'") _
  have hspec : options.kept (Config.issueUnless
      (Blank.trim (options.spec.getD config.description.path) ≠ "") "description.path"
        "must not be empty") =
        options.kept (Config.issueUnless (Blank.trim config.description.path ≠ "") "description.path"
          "must not be empty") :=
    kept_issueUnless_getD (by simp [replacements]) (fun path => Blank.trim path ≠ "")
      (fun _ => "must not be empty") _
  have hissues : (options.override config).issues =
      Config.addressIssue "listener.bind_address" (options.bind.getD config.listener.bindAddress) ++
      Config.addressIssue "upstream.address" (options.service.getD config.service.address) ++
      (if config.observability.metricsEnabled then
        Config.addressIssue "observability.metrics_address" config.observability.metricsAddress
        else []) ++
      Config.issueUnless (Blank.trim (options.spec.getD config.description.path) ≠ "")
        "description.path" "must not be empty" ++
      Config.issueUnless (config.validation.maxBodyBytes ≠ 0) "validation.max_body_bytes"
        "must be greater than 0" ++
      Config.issueUnless (config.timeouts.requestSeconds ≠ 0) "timeouts.request_secs"
        "must be greater than 0" := rfl
  rw [hissues]
  unfold Config.issues
  simp only [kept_append, hbind, hservice, hspec]

/-! ## Resolving -/

/-- What options resolve to, given the configuration that they replace fields of. -/
structure ResolvesOverFile (options : Options) (contents : Option (List UInt8)) (config : Config) :
    Prop where
  /-- The file has to be sound, and so has what options make of it. -/
  ok_iff : ∀ result, options.resolve contents = .ok result ↔
    result = options.override config ∧ config.issues = [] ∧ result.issues = []
  /-- The issues of the file are reported, and else those of what options make of it. -/
  error_iff : ∀ e, options.resolve contents = .error e ↔
    (config.issues ≠ [] ∧ e = .unsound config.issues) ∨
      (config.issues = [] ∧ (options.override config).issues ≠ [] ∧
        e = .unsound (options.override config).issues)
  /-- Without a file there is nothing to report before. -/
  default_sound : options.config = none → config.issues = []
  /-- Fields that no option replaces have the same issues in both. -/
  same_kept : options.kept (options.override config).issues = options.kept config.issues
  /-- Of two sound files that differ in replaced fields only, either may be given. -/
  alike : ∀ others other, options.written? others = some other → options.AgreesApart config other →
    config.issues = [] → other.issues = [] → options.resolve contents = options.resolve others
  /-- A file that differs from a sound one in replaced fields only has issues in these only. -/
  at_replaced : ∀ others other, options.written? others = some other →
    options.AgreesApart config other → config.issues = [] →
      ∀ issue ∈ other.issues, issue.field ∈ options.replaced

/-- What options resolve to when there is a configuration that they can replace fields of. -/
theorem resolvesOverFile (h : options.written? contents = some config) :
    options.ResolvesOverFile contents config := by
  constructor
  case ok_iff =>
    intro result
    rw [resolve_eq h]
    constructor
    · intro hresult
      obtain ⟨found, hfound, hvalidated⟩ := Fallible.bind_eq_ok_iff.1 hresult
      obtain ⟨hsound, rfl⟩ := Config.validate_eq_ok_iff.1 hfound
      obtain ⟨hresolved, rfl⟩ := Config.validate_eq_ok_iff.1 hvalidated
      exact ⟨rfl, hsound, hresolved⟩
    · rintro ⟨rfl, hsound, hresolved⟩
      exact Fallible.bind_eq_ok_iff.2 ⟨config, Config.validate_eq_ok_iff.2 ⟨hsound, rfl⟩,
        Config.validate_eq_ok_iff.2 ⟨hresolved, rfl⟩⟩
  case error_iff =>
    intro e
    rw [resolve_eq h]
    refine Fallible.bind_eq_error_iff.trans (or_congr Config.validate_eq_error_iff ?_)
    constructor
    · rintro ⟨found, hfound, herror⟩
      obtain ⟨hsound, rfl⟩ := Config.validate_eq_ok_iff.1 hfound
      exact ⟨hsound, Config.validate_eq_error_iff.1 herror⟩
    · rintro ⟨hsound, herror⟩
      exact ⟨config, Config.validate_eq_ok_iff.2 ⟨hsound, rfl⟩,
        Config.validate_eq_error_iff.2 herror⟩
  case default_sound =>
    intro hnone
    unfold written? at h
    rw [hnone] at h
    cases h
    exact Config.issues_default
  case same_kept => exact kept_issues_override config
  case alike =>
    intro others other hother hagrees hsound hsoundOther
    have hsame := override_eq_override_iff.2 hagrees
    have hfirst : config.validate = .ok config := Config.validate_eq_ok_iff.2 ⟨hsound, rfl⟩
    have hsecond : other.validate = .ok other := Config.validate_eq_ok_iff.2 ⟨hsoundOther, rfl⟩
    rw [resolve_eq h, resolve_eq hother, hfirst, hsecond]
    exact congrArg Config.validate hsame
  case at_replaced =>
    intro others other _ hagrees hsound issue hissue
    have hsame := override_eq_override_iff.2 hagrees
    have hnone : options.kept other.issues = [] := by
      rw [← kept_issues_override, ← hsame, kept_issues_override, hsound]
      rfl
    have hkept := List.filter_eq_nil_iff.1 hnone issue hissue
    simpa using hkept

/-- Options that name a file and replace the address in it. -/
def rebound : Options :=
  ⟨some "gate.toml", none, some "1.2.3.4:5", none⟩

/-- The bytes of a file that gives an address of its own. -/
def boundFile (address : String) : List UInt8 :=
  Utf8.encode ("[listener]\nbind_address = \"" ++ address ++ "\"\n")

theorem rebound_resolvesOverFile : ∃ config,
    rebound.written? (some (boundFile "127.0.0.1:80")) = some config ∧
      rebound.ResolvesOverFile (some (boundFile "127.0.0.1:80")) config ∧
        rebound.resolve (some (boundFile "127.0.0.1:80")) = .ok (rebound.override config) := by
  have hwritten : rebound.written? (some (boundFile "127.0.0.1:80")) =
      some { Config.default with listener := ⟨"127.0.0.1:80"⟩ } := by
    decide +kernel
  exact ⟨_, hwritten, resolvesOverFile hwritten, by decide +kernel⟩

/-- A file with an address that is none is refused, although an option replaces the address and nothing
else is wrong. -/
theorem rebound_refused : ∃ config,
    CommandLine.Invocation.ofArguments? ["-c", "gate.toml", "-b", "1.2.3.4:5", "check"] =
      some (.run rebound .check) ∧
    rebound.written? (some (boundFile "bad")) = some config ∧
      (rebound.override config).issues = [] ∧
        rebound.resolve (some (boundFile "bad")) = .error (.unsound
          [⟨"listener.bind_address", "invalid socket address 'bad'"⟩]) := by
  refine ⟨{ Config.default with listener := ⟨"bad"⟩ }, ?_, ?_, ?_, ?_⟩ <;> decide +kernel

end Options
end CommandLine
end RequestGate
