import SqlRunner.Proofs.LowerCase
import SqlRunner.Settings

/-!
# Registrations — which dialect a name means, and which one settings choose

A registry is what was registered, one dialect after another, on top of the built-in ones. So to
look a name up is to look through that history from its end (`find?_ofRegistrations`), and a name
that means a dialect once never comes to mean none.

A dialect has a name of its own, and the name that it is registered under need not be that one.
Settings take the way over it: they look a name up, and then the name that the dialect gives itself.
So a setting chooses the dialect that it names if that dialect is also the one under its own name.
Where dialects are registered under their own names alone, this is so for every name but the alias
(`lower_name_of_latest`).
-/

set_option autoImplicit false

namespace SqlRunner

/-! ## The history of a registry -/

namespace Registry

/-- The registry after some registrations, the first of which was made first. -/
def ofRegistrations (registrations : List (String × Dialect)) : Registry :=
  registrations.foldl (fun registry e => registry.register e.1 e.2) builtin

/-- The dialect that was registered last under a lower-case name, or else the built-in one. -/
def latest? (registrations : List (String × Dialect)) (key : String) : Option Dialect :=
  match registrations.reverse.find? fun e => Text.lower e.1 == key with
  | some e => some e.2
  | none => builtin.find? key

theorem find?_register (registry : Registry) (name : String) (dialect : Dialect) (key : String) :
    (registry.register name dialect).find? key =
      if Text.lower name = key then some dialect else registry.find? key := by
  by_cases same : Text.lower name = key
  · rw [if_pos same, ← same]
    exact Entries.get?_put_self ..
  · rw [if_neg same]
    exact Entries.get?_put_of_ne _ _ (Ne.symm same)

/-- **The last registration counts.** -/
theorem find?_ofRegistrations (registrations : List (String × Dialect)) (key : String) :
    (ofRegistrations registrations).find? key = latest? registrations key := by
  induction registrations using List.reverseRecOn with
  | nil => rfl
  | append_singleton before e ih =>
    rw [ofRegistrations, List.foldl_append, List.foldl_cons, List.foldl_nil, find?_register,
      ← ofRegistrations, ih, latest?, latest?, List.reverse_append, List.reverse_singleton,
      List.singleton_append, List.find?_cons]
    by_cases same : Text.lower e.1 = key
    · rw [if_pos same, beq_iff_eq.mpr same]
    · rw [if_neg same, beq_false_of_ne same]

theorem get_eq_ok_iff {registry : Registry} {name : String} {dialect : Dialect} :
    registry.get name = .ok dialect ↔ registry.find? (Text.lower name) = some dialect := by
  rw [get]
  cases registry.find? (Text.lower name) with
  | none => simp
  | some d => simp

theorem get_ofRegistrations_iff {registrations : List (String × Dialect)} {name : String}
    {dialect : Dialect} : (ofRegistrations registrations).get name = .ok dialect ↔
      latest? registrations (Text.lower name) = some dialect := by
  rw [get_eq_ok_iff, find?_ofRegistrations]

/-- An address with a scheme means the dialect that the scheme goes by. -/
theorem forUrl_of_scheme {registry : Registry} {url scheme : String} {dialect : Dialect}
    (read : scheme? url = some scheme)
    (found : registry.find? (nameOfScheme (Text.lower scheme)) = some dialect) :
    registry.forUrl (some url) = .ok dialect := by
  rw [forUrl, Option.bind_some, read]
  dsimp only
  rw [found]

/-- Every dialect was registered under the name that it calls itself, in any case. -/
def OwnNames (registrations : List (String × Dialect)) : Prop :=
  ∀ e ∈ registrations, Text.lower e.2.name = Text.lower e.1

/-- A built-in dialect is found under its own name, and one of them under the alias too. -/
theorem name_of_builtin {key : String} {dialect : Dialect} (h : builtin.find? key = some dialect) :
    dialect.name = key ∨ key = hiddenAlias ∧ dialect = .postgresql := by
  obtain ⟨e, found, rfl⟩ := Option.map_eq_some_iff.mp h
  have named : ∀ e ∈ builtin.entries, e.2.name = e.1 ∨ e.1 = hiddenAlias ∧ e.2 = .postgresql := by
    decide
  have here := List.find?_some found
  have same : e.1 = key := eq_of_beq here
  exact same ▸ named e (List.mem_of_find?_eq_some found)

/-- A dialect that is found was registered under the name, or is built in and nothing was. -/
theorem latest?_cases {registrations : List (String × Dialect)} {key : String} {dialect : Dialect}
    (h : latest? registrations key = some dialect) :
    (∃ e ∈ registrations, Text.lower e.1 = key ∧ e.2 = dialect) ∨
      (∀ e ∈ registrations, Text.lower e.1 ≠ key) ∧ builtin.find? key = some dialect := by
  rw [latest?] at h
  split at h
  case h_1 e found =>
    cases h
    have here := List.find?_some found
    exact .inl ⟨e, List.mem_reverse.mp (List.mem_of_find?_eq_some found), eq_of_beq here, rfl⟩
  case h_2 none =>
    refine .inr ⟨fun e mem same => ?_, h⟩
    exact List.find?_eq_none.mp none e (List.mem_reverse.mpr mem) (beq_iff_eq.mpr same)

/-- **Own names are found again**, but for the alias. -/
theorem lower_name_of_latest {registrations : List (String × Dialect)}
    (own : OwnNames registrations) {name : String} {dialect : Dialect}
    (h : latest? registrations (Text.lower name) = some dialect)
    (named : Text.lower name ≠ hiddenAlias) : Text.lower dialect.name = Text.lower name := by
  rcases latest?_cases h with ⟨e, mem, same, rfl⟩ | ⟨-, builtin⟩
  · rw [own e mem, same]
  · rcases name_of_builtin builtin with same | ⟨hidden, -⟩
    · rw [same, Text.lower_lower]
    · exact absurd hidden named

end Registry

/-! ## Settings -/

namespace Settings

open Registry

/-- What settings have for the dialect is what their field reads, wherever the value was found. -/
theorem dialect_of_ofSources {registry : Registry} {sources : SettingSources}
    {settings : Settings} {value : Datum} (given : sources.value? "dialect" = some value)
    (h : ofSources registry sources = .ok settings) :
    readDialect registry value = .ok settings.dialect := by
  rw [ofSources] at h
  dsimp only at h
  split at h
  case h_1 read _ _ _ =>
    cases h
    rw [readField, given] at read
    cases field : readDialect registry value with
    | error trouble => simp only [field, Except.mapError] at read; cases read
    | ok dialect =>
      simp only [field, Except.mapError] at read
      cases read
      rfl
  case h_2 => cases h

/-- A name is taken if it is registered, and kept in lower case; the empty one is none. -/
theorem readDialect_text (registry : Registry) (name : String) :
    readDialect registry (.text name) =
      if name = "" then .ok none
      else match registry.get name with
        | .ok _ => .ok (some (Text.lower name))
        | .error fault => .error (.refused fault.message) := by
  by_cases empty : name = ""
  · rw [if_pos empty, empty]
    rfl
  · rw [if_neg empty]
    have some : name.isEmpty = false := by simpa using empty
    show (if name.isEmpty then _ else _) = _
    rw [some]
    rfl

/-- The name that is kept, and what it means to the registry that took it. -/
theorem dialect_of_named {registry : Registry} {name : String} {kept : Option String}
    (accepted : readDialect registry (.text name) = .ok kept) (nonempty : name ≠ "") :
    kept = some (Text.lower name) ∧ ∃ d, registry.get name = .ok d := by
  rw [readDialect_text, if_neg nonempty] at accepted
  cases found : registry.get name with
  | error fault => rw [found] at accepted; cases accepted
  | ok d =>
    rw [found] at accepted
    exact ⟨(Except.ok.inj accepted).symm, d, rfl⟩

/-- A dialect that is registered under its own name is chosen wherever it is found. -/
theorem createDialect_of_own {registrations : List (String × Dialect)} {settings : Settings}
    {dialect : Dialect}
    (found : settings.dialectName (.ofRegistrations registrations) = .ok dialect.name)
    (own : latest? registrations (Text.lower dialect.name) = some dialect) :
    settings.createDialect (.ofRegistrations registrations) = .ok dialect := by
  rw [createDialect, found]
  exact get_ofRegistrations_iff.mpr own

/-- **Settings choose the dialect that they name.** Whatever was registered before, a name that the
    field takes means a dialect, the one that was registered under it last or a built-in one. If
    this dialect is also the one under its own name, it is the one that the settings choose; and
    where every dialect was registered under its own name, it is, but for the alias. The empty name
    is none: with it, and with the same proviso, the dialect of the address is chosen. How the
    settings came by their other fields, and by this one, plays no part. -/
theorem createDialect_named (registrations : List (String × Dialect)) {name : String}
    {settings : Settings}
    (accepted : readDialect (.ofRegistrations registrations) (.text name) =
      .ok settings.dialect) :
    (name ≠ "" → ∃ d, latest? registrations (Text.lower name) = some d ∧
      (ofRegistrations registrations).get name = .ok d ∧
      (latest? registrations (Text.lower d.name) = some d →
        settings.createDialect (.ofRegistrations registrations) = .ok d) ∧
      (OwnNames registrations → Text.lower name ≠ hiddenAlias →
        settings.createDialect (.ofRegistrations registrations) = .ok d)) ∧
    (name = "" → settings.dialect = none ∧
      ∀ d, (ofRegistrations registrations).forUrl (some settings.databaseUrl) = .ok d →
        latest? registrations (Text.lower d.name) = some d →
          settings.createDialect (.ofRegistrations registrations) = .ok d) := by
  refine ⟨fun nonempty => ?_, fun empty => ?_⟩
  · obtain ⟨kept, d, found⟩ := dialect_of_named accepted nonempty
    have meant := get_ofRegistrations_iff.mp found
    have again : settings.dialectName (.ofRegistrations registrations) = .ok d.name := by
      -- the name was put into lower case when it was taken, and is so once more
      have kept' := get_ofRegistrations_iff.mpr ((Text.lower_lower name).symm ▸ meant)
      rw [dialectName, kept]
      dsimp only
      rw [kept']
      rfl
    refine ⟨d, meant, found, createDialect_of_own again, fun own notAlias => ?_⟩
    refine createDialect_of_own again ?_
    rw [lower_name_of_latest own meant notAlias, meant]
  · subst empty
    have none : settings.dialect = none := (Except.ok.inj accepted).symm
    refine ⟨none, fun d guessed own => createDialect_of_own ?_ own⟩
    rw [dialectName, none]
    dsimp only
    rw [guessed]
    rfl

/-- A custom dialect that is registered in capitals, and named in the environment. -/
theorem createDialect_named_custom :
    ofSources (.ofRegistrations [("H2", { name := "h2", callsProcedures := false })])
        { environment := [("sqlgate_dialect", "h2")] } = .ok { dialect := some "h2" } ∧
      ({ dialect := some "h2" } : Settings).createDialect
        (.ofRegistrations [("H2", { name := "h2", callsProcedures := false })]) =
          .ok { name := "h2", callsProcedures := false } := by
  have accepted : ofSources (.ofRegistrations [("H2", { name := "h2", callsProcedures := false })])
      { environment := [("sqlgate_dialect", "h2")] } = .ok { dialect := some "h2" } := by
    decide +kernel
  have given : SettingSources.value? { environment := [("sqlgate_dialect", "h2")] } "dialect" =
      some (.text "h2") := by rfl
  obtain ⟨d, meant, -, -, chosen⟩ :=
    (createDialect_named [("H2", { name := "h2", callsProcedures := false })]
      (dialect_of_ofSources given accepted)).1 (by decide)
  have own : OwnNames [("H2", { name := "h2", callsProcedures := false })] := fun e mem => by
    cases List.mem_singleton.mp mem
    decide +kernel
  have same : d = { name := "h2", callsProcedures := false } :=
    Option.some.inj (meant.symm.trans (by decide +kernel))
  subst same
  exact ⟨accepted, chosen own (by decide +kernel)⟩

/-- **Not every setting chooses what its name means.** The empty name is taken and means no dialect,
    and the one of the address is chosen. And of a dialect that is registered under another name
    than its own, nothing but that name is used: here another dialect is chosen by it. -/
theorem createDialect_passes_over :
    (ofSources .builtin { given := [("dialect", .text "")] } = .ok {} ∧
      Registry.builtin.get "" = .error (.unknownDialect "" Registry.builtin.listedNames) ∧
      ({} : Settings).createDialect .builtin = .ok .sqlite) ∧
    (ofSources (.ofRegistrations [("plain", { name := "oracle" })])
        { given := [("dialect", .text "plain")] } = .ok { dialect := some "plain" } ∧
      (ofRegistrations [("plain", { name := "oracle" })]).get "plain" = .ok { name := "oracle" } ∧
      ({ dialect := some "plain" } : Settings).createDialect
        (.ofRegistrations [("plain", { name := "oracle" })]) = .ok .oracle) := by
  have meant : (ofRegistrations [("plain", { name := "oracle" })]).get "plain" =
      .ok { name := "oracle" } := get_ofRegistrations_iff.mpr (by decide +kernel)
  have other : (ofRegistrations [("plain", { name := "oracle" })]).get "oracle" = .ok .oracle :=
    get_ofRegistrations_iff.mpr (by decide +kernel)
  have address : Registry.builtin.forUrl (some "sqlite:///:memory:") = .ok .sqlite :=
    forUrl_of_scheme (by decide +kernel : scheme? "sqlite:///:memory:" = some "sqlite")
      (by decide +kernel)
  have builtin : Registry.builtin.get "sqlite" = .ok .sqlite :=
    get_eq_ok_iff.mpr (by decide +kernel)
  refine ⟨⟨by decide +kernel, by rfl, ?_⟩, by decide +kernel, meant, ?_⟩
  · rw [createDialect, dialectName]
    dsimp only
    rw [address]
    exact builtin
  · rw [createDialect, dialectName]
    dsimp only
    rw [meant]
    exact other

end Settings

end SqlRunner
