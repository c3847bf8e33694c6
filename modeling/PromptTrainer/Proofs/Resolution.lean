import PromptTrainer.Proofs.Singles
import PromptTrainer.Proofs.ModuleConfigs
/-!
# Rebuilding a model from its portable configuration

A resolver builds HTTP models against a providers table: from a profile's name, from the default
profile, or from a portable configuration.  Each of these ends on a backend that is the first of
its name in the table, with a token limit that fits in 32 bits; and a model's configuration
names that backend, its model, its temperature widened to a double and its token limit.  So
resolving the configuration finds the same backend and invokes it the same way, and the model
comes back as it was, with one exception: JSON has no infinities or NaN, so such a temperature
is written as null and read back as the default temperature.

Main statement: `resolve_config_rebuilds`.
-/

namespace PromptTrainer

namespace Providers

/-- Every profile's token limit fits in 32 bits, as in every providers table read from a
configuration. -/
def TokenLimitsFit (p : Providers) : Prop :=
  ∀ profile ∈ p.models, ∀ n ∈ profile.maxTokens, n < 2 ^ 32

variable {p : Providers} {b : Backend}

/-- A backend found by a name is the first of its own name. -/
theorem backend?_name {name : String} (found : p.backend? name = some b) :
    p.backend? b.name = some b := by
  have named : b.name = name := by simpa using List.find?_some found
  rwa [named]

/-- The first backend is the first of its own name. -/
theorem backend?_head (first : p.backends.head? = some b) : p.backend? b.name = some b := by
  obtain ⟨rest, listed⟩ := List.head?_eq_some_iff.mp first
  simp [backend?, listed]

/-- The default backend is the first of its own name. -/
theorem backend?_of_defaultBackend? (found : p.defaultBackend? = some b) :
    p.backend? b.name = some b := by
  unfold defaultBackend? at found
  split at found
  · exact backend?_name found
  · exact backend?_head found

/-- The backend serving a profile is the first of its own name. -/
theorem backend?_of_backendFor {profile : ModelProfile} (served : p.backendFor profile = some b) :
    p.backend? b.name = some b := by
  unfold backendFor at served
  split at served
  · rename_i own
    cases served
    obtain ⟨name, -, found⟩ := Option.bind_eq_some_iff.mp own
    exact backend?_name found
  · exact backend?_of_defaultBackend? served

theorem mem_of_model? {name : String} {profile : ModelProfile}
    (found : p.model? name = some profile) : profile ∈ p.models :=
  List.mem_of_find?_eq_some found

theorem mem_of_defaultModel? {profile : ModelProfile} (found : p.defaultModel? = some profile) :
    profile ∈ p.models := by
  unfold defaultModel? at found
  split at found
  · exact mem_of_model? found
  · exact List.mem_of_mem_head? found

end Providers

/-- A model on a backend, invoked: with the backend's name, and the invocation's model,
temperature and token limit. -/
def HttpModel.invokeOn (m : HttpModel) (b : Backend) (inv : Invocation) : HttpModel :=
  { m with model := inv.model, temperature := inv.temperature, maxTokens := inv.maxTokens,
           backend := some b.name }

/-- Building settles everything but the backend's name and the invocation from the backend and
the environment alone. -/
theorem buildHttpModel_eq (env : Environment) (b : Backend) (inv : Invocation) :
    buildHttpModel env b inv = (buildHttpModel env b {}).map (HttpModel.invokeOn · b inv) := by
  unfold buildHttpModel
  cases BackendKind.parse b.kind with
  | error => rfl
  | ok kind =>
    -- the invocation is read only by the last step, after every stage that can fail
    dsimp only [bind, Except.bind]
    cases b.endpoint <;> cases kind.defaultEndpoint <;> cases kind.requiresApiKey <;>
      rcases b.apiKey env with (_ | name) | key <;> rfl

theorem exists_of_buildHttpModel {env : Environment} {b : Backend} {inv : Invocation}
    {m : HttpModel} (made : buildHttpModel env b inv = .ok m) :
    ∃ base, buildHttpModel env b {} = .ok base ∧ m = base.invokeOn b inv := by
  rw [buildHttpModel_eq] at made
  cases connected : buildHttpModel env b {} with
  | error e => simp [connected, Except.map] at made
  | ok base =>
    simp only [connected, Except.map, Except.ok.injEq] at made
    exact ⟨base, rfl, made.symm⟩

/-- The temperature a portable configuration carries back: the model's own when it is finite,
else the default, since an infinity or a NaN is written as null. -/
def portableTemperature (t : Float32) : Float32 := if t.isFinite then t else defaultTemperature

/-- Renaming the error changes no success. -/
@[simp] theorem mapError_eq_ok {ε δ α : Type} {f : ε → δ} {x : Except ε α} {a : α} :
    x.mapError f = .ok a ↔ x = .ok a := by
  cases x <;> simp [Except.mapError]

namespace Resolver

/-- The temperature of a model's configuration reads back as the portable temperature. -/
theorem numberOf?_config (m : HttpModel) :
    ((numberOf? m.config "temperature").map Float.toSingle).getD defaultTemperature =
      portableTemperature m.temperature := by
  simp only [numberOf?, HttpModel.config, Json.get?, Json.lookup, portableTemperature, Json.single]
  split_ifs <;> simp [JsonNumber.toFloat]

/-- The token limit of a model's configuration reads back as itself, when it fits in 32 bits. -/
theorem unsignedSetting?_config {m : HttpModel} (fits : ∀ n ∈ m.maxTokens, n < 2 ^ 32) :
    (unsignedSetting? m.config "max_tokens").map (· % 4294967296) = m.maxTokens := by
  obtain ⟨endpoint, apiKey, model, temperature, tokens, timeout, backend⟩ := m
  cases tokens with
  | none => simp [unsignedSetting?, HttpModel.config, Json.get?, Json.lookup]
  | some n =>
    have small : n < 2 ^ 32 := fits n rfl
    simp [unsignedSetting?, HttpModel.config, Json.get?, Json.lookup, Json.nat,
      JsonNumber.toUnsigned?_nat (by omega : n < 2 ^ 64)]
    omega

variable {r : Resolver}

/-- Resolving the configuration of a model built on a backend that is the first of its name
builds it again, with the temperature the configuration carries. -/
theorem resolve_config_of_build {b : Backend} (found : r.providers.backend? b.name = some b)
    {inv : Invocation} (fits : ∀ n ∈ inv.maxTokens, n < 2 ^ 32) {m : HttpModel}
    (made : buildHttpModel r.env b inv = .ok m) :
    r.resolve m.config = .ok { m with temperature := portableTemperature m.temperature } := by
  obtain ⟨base, connected, rfl⟩ := exists_of_buildHttpModel made
  simp only [resolve, resolveInline, numberOf?_config,
    @unsignedSetting?_config (base.invokeOn b inv) fits]
  simp [HttpModel.config, HttpModel.invokeOn, Json.get?, Json.lookup, Json.ofStringOption, found]
  rw [buildHttpModel_eq, connected]
  rfl

/-- A model built on a backend that is the first of its name, with an invocation whose token
limit fits in 32 bits. -/
def OnFirstBackend (r : Resolver) (m : HttpModel) : Prop :=
  ∃ b inv, r.providers.backend? b.name = some b ∧ (∀ n ∈ Invocation.maxTokens inv, n < 2 ^ 32) ∧
    buildHttpModel r.env b inv = .ok m

/-- The models a resolver builds: a named profile's, the default profile's, or a portable
configuration's. -/
def Builds (r : Resolver) (m : HttpModel) : Prop :=
  (∃ name, r.buildProfile name = .ok m) ∨ r.buildDefault = .ok m ∨
    ∃ config, r.resolve config = .ok m

variable {m : HttpModel}

theorem onFirstBackend_of_resolveInline {config : Json} (made : r.resolveInline config = .ok m) :
    r.OnFirstBackend m := by
  unfold resolveInline at made
  split at made
  · dsimp only at made
    split at made
    · cases made
    · rename_i b chosen
      refine ⟨b, _, ?_, ?_, made⟩
      · split at chosen
        · exact Providers.backend?_name chosen
        · exact Providers.backend?_of_defaultBackend? chosen
      · intro n limit
        obtain ⟨k, -, rfl⟩ := Option.map_eq_some_iff.mp limit
        exact Nat.mod_lt k (by decide)
  · cases made

variable (fits : r.providers.TokenLimitsFit)
include fits

theorem onFirstBackend_of_buildFrom {profile : ModelProfile} (listed : profile ∈ r.providers.models)
    (made : r.buildFrom profile = .ok m) : r.OnFirstBackend m := by
  unfold buildFrom at made
  split at made
  · cases made
  · rename_i b served
    exact ⟨b, _, Providers.backend?_of_backendFor served, fits profile listed, made⟩

theorem onFirstBackend_of_buildProfile {name : String} (made : r.buildProfile name = .ok m) :
    r.OnFirstBackend m := by
  unfold buildProfile at made
  split at made
  · cases made
  · rename_i profile found
    exact onFirstBackend_of_buildFrom fits (Providers.mem_of_model? found) made

theorem onFirstBackend_of_buildDefault (made : r.buildDefault = .ok m) : r.OnFirstBackend m := by
  unfold buildDefault at made
  split at made
  · cases made
  · rename_i profile found
    exact onFirstBackend_of_buildFrom fits (Providers.mem_of_defaultModel? found) made

theorem onFirstBackend_of_resolve {config : Json} (made : r.resolve config = .ok m) :
    r.OnFirstBackend m := by
  unfold resolve at made
  dsimp only at made
  split_ifs at made with refused
  have built := mapError_eq_ok.mp made
  split at built
  · exact onFirstBackend_of_buildProfile fits built
  · exact onFirstBackend_of_resolveInline built

/-- Every model a resolver builds is on a backend that is the first of its name, with a token
limit that fits in 32 bits. -/
theorem Builds.onFirstBackend (built : r.Builds m) : r.OnFirstBackend m := by
  rcases built with ⟨name, made⟩ | made | ⟨config, made⟩
  · exact onFirstBackend_of_buildProfile fits made
  · exact onFirstBackend_of_buildDefault fits made
  · exact onFirstBackend_of_resolve fits made

end Resolver

/-- A model whose configuration comes back the same once resolved has a finite temperature:
an infinity or a NaN is written as null, and the default it is read back as is written as a
number. -/
theorem HttpModel.isFinite_of_config_portable {m : HttpModel}
    (same : ({ m with temperature := portableTemperature m.temperature } : HttpModel).config =
      m.config) : m.temperature.isFinite = true := by
  by_contra infinite
  have defaultFinite : defaultTemperature.isFinite = true := by decide
  simp [HttpModel.config, portableTemperature, Json.single, infinite, defaultFinite] at same

/-- Every model a resolver builds is built again from its portable configuration, with the
temperature the configuration carries; so its configuration comes back the same exactly when
its temperature is finite. -/
theorem resolve_config_rebuilds {r : Resolver} (fits : r.providers.TokenLimitsFit)
    {m : HttpModel} (built : r.Builds m) :
    r.resolve m.config = .ok { m with temperature := portableTemperature m.temperature } ∧
      ((∃ m', r.resolve m.config = .ok m' ∧ m'.config = m.config) ↔
        m.temperature.isFinite = true) := by
  obtain ⟨b, inv, found, limit, made⟩ := built.onFirstBackend fits
  have rebuilt := Resolver.resolve_config_of_build found limit made
  refine ⟨rebuilt, ⟨?_, fun finite => ⟨m, ?_, rfl⟩⟩⟩
  · rintro ⟨m', resolved, same⟩
    rw [rebuilt, Except.ok.injEq] at resolved
    subst resolved
    exact HttpModel.isFinite_of_config_portable same
  · have kept : portableTemperature m.temperature = m.temperature := if_pos finite
    rw [rebuilt, kept]

/-- One local backend with two profiles on it: a warm one with a token limit, and one whose
temperature is infinite. -/
def sampleResolver : Resolver :=
  ⟨{ backends := [{ name := "local", kind := "ollama" }],
     models := [
       { name := "warm", backend := some "local", model := "llama3", temperature := some 0.5,
         maxTokens := some 256 },
       { name := "unbounded", backend := some "local", model := "llama3",
         temperature := some (1 / 0) }] }, []⟩

theorem resolve_config_rebuilds_warm :
    sampleResolver.providers.TokenLimitsFit ∧
      ∃ m, sampleResolver.buildProfile "warm" = .ok m ∧ sampleResolver.Builds m ∧
        sampleResolver.resolve m.config =
          .ok { m with temperature := portableTemperature m.temperature } ∧
        ((∃ m', sampleResolver.resolve m.config = .ok m' ∧ m'.config = m.config) ↔
          m.temperature.isFinite = true) := by
  have fits : sampleResolver.providers.TokenLimitsFit := by
    unfold Providers.TokenLimitsFit sampleResolver
    decide
  exact ⟨fits, _, rfl, .inl ⟨"warm", rfl⟩, resolve_config_rebuilds fits (.inl ⟨"warm", rfl⟩)⟩

/-- The profile whose temperature is infinite builds a model whose configuration holds a null
temperature; resolving that configuration gives the default temperature, and another
configuration. -/
theorem infinite_temperature_not_rebuilt :
    ∃ m m', sampleResolver.buildProfile "unbounded" = .ok m ∧
      m.config.get? "temperature" = some .null ∧
      sampleResolver.resolve m.config = .ok m' ∧ m'.temperature = defaultTemperature ∧
      m'.config ≠ m.config := by
  refine ⟨_, _, rfl, rfl, rfl, rfl, fun same => ?_⟩
  have member := congrArg (Json.get? · "temperature") same
  have written : Json.single defaultTemperature ≠ .null := by
    rw [Json.single, if_pos (by decide)]
    exact Json.noConfusion
  exact written (Option.some.inj member)

end PromptTrainer
