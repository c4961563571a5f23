import MailFilter.Command.Tasks
import MailFilter.Proofs.Filter.Replies
import MailFilter.Proofs.Table

/-!
# What counts as settings

A document and the name of a log level give settings if they meet four demands. The settings say
what the document says, and the usual where it says nothing. Otherwise the first demand that is not
met is refused.
-/
namespace MailFilter

open FirstFailure
open Command (Halt haltOfSettings)

/-- The required extensions that an entry names: null is as good as no entry, and an empty list
names none. -/
inductive NamesExtensions : Option Value → List String → Prop where
  | absent : NamesExtensions none ["fileinto", "imap4flags"]
  | null : NamesExtensions (some .null) ["fileinto", "imap4flags"]
  | single (name : String) : NamesExtensions (some (.str name)) [name]
  | list (names : List String) : NamesExtensions (some (.arr (names.map .str))) names

/-- The settings say what the document says, and the usual where it has no entry. -/
structure Settings.Follow (s : Settings) (levelName : Option String) (document : Value) :
    Prop where
  level : s.logLevel.name = Text.upper (levelName.getD "WARNING")
  format : (document.field? "output").getD (.str "json") = .str s.format.name
  extensions : NamesExtensions (document.field? "required_extensions") s.requirements.extensions
  trash : s.requirements.trash = (document.field? "trash_folder").getD (.str "trash")

/-- What must be so of settings, in the order in which it is looked at. -/
inductive Demand where
  | level
  | mapping
  | format
  | extensions
  deriving DecidableEq, Repr

namespace Demand

def rank : Demand → Nat
  | level => 0
  | mapping => 1
  | format => 2
  | extensions => 3

def Met (levelName : Option String) (document : Value) : Demand → Prop
  | level => Text.upper (levelName.getD "WARNING") ∈
      ["CRITICAL", "ERROR", "WARNING", "INFO", "DEBUG"]
  | mapping => document.isEmpty = true ∨ ∃ fields, document = .obj fields
  | format => document.field? "output" ∈ [none, some (.str "json"), some (.str "table")]
  | extensions => ∃ names, NamesExtensions (document.field? "required_extensions") names

def refusal (path : String) (levelName : Option String) (document : Value) :
    Demand → SettingsError
  | level => .unknownLogLevel (Text.upper (levelName.getD "WARNING"))
  | mapping => .notMapping
  | format => .unknownFormat path ((document.field? "output").getD .null)
  | extensions => .badExtensions path ((document.field? "required_extensions").getD .null)

/-- The end of a command whose settings do not meet a demand. That a document is no mapping is
reported to nobody. -/
def report (path : String) (levelName : Option String) (document : Value) : Demand → Halt
  | level => .badSettings ("Unknown log level in SIEVE_SIMPLE_LOG_LEVEL: " ++
      Text.upper (levelName.getD "WARNING"))
  | mapping => .escaped .noMember
  | format => .badSettings ("Unknown output format in " ++ path ++ ": " ++
      ((document.field? "output").getD .null).display)
  | extensions => .badSettings ("required_extensions in " ++ path ++ " must be a list of names: " ++
      ((document.field? "required_extensions").getD .null).literal)

theorem haltOfSettings_refusal (path : String) (levelName : Option String) (document : Value)
    (d : Demand) :
    haltOfSettings (d.refusal path levelName document) = d.report path levelName document := by
  cases d <;> rfl

end Demand

theorem LogLevel.ofName?_eq_some {name : String} {l : LogLevel} :
    LogLevel.ofName? name = some l ↔ l.name = name := by
  constructor
  · exact Table.name_of_lookup_inverse
  · rintro rfl
    cases l <;> decide

theorem Format.ofName?_eq_some {name : String} {f : Format} :
    Format.ofName? name = some f ↔ f.name = name := by
  constructor
  · exact Table.name_of_lookup_inverse
  · rintro rfl
    cases f <;> decide

namespace Settings

section

variable {path : String} {levelName : Option String} {document : Value}

theorem exists_level (h : Demand.level.Met levelName document) :
    ∃ l : LogLevel, l.name = Text.upper (levelName.getD "WARNING") := by
  simp only [Demand.Met, List.mem_cons, List.not_mem_nil, or_false] at h
  rcases h with h | h | h | h | h
  · exact ⟨.critical, h.symm⟩
  · exact ⟨.error, h.symm⟩
  · exact ⟨.warning, h.symm⟩
  · exact ⟨.info, h.symm⟩
  · exact ⟨.debug, h.symm⟩

theorem readLevel_of_name {l : LogLevel} (h : l.name = Text.upper (levelName.getD "WARNING")) :
    readLevel levelName = .ok l := by
  simp only [readLevel, LogLevel.ofName?_eq_some.mpr h]

theorem readLevel_of_not_met (h : ¬ Demand.level.Met levelName document) :
    readLevel levelName = .error (Demand.level.refusal path levelName document) := by
  have hn : LogLevel.ofName? (Text.upper (levelName.getD "WARNING")) = none := by
    rw [Option.eq_none_iff_forall_ne_some]
    intro l hl
    apply h
    rw [Demand.Met, ← LogLevel.ofName?_eq_some.mp hl]
    cases l <;> simp [LogLevel.name]
  simp only [readLevel, hn, Demand.refusal]

theorem entries_of_met (h : Demand.mapping.Met levelName document) :
    ∃ fields, entries document = .ok fields ∧
      ∀ name, fields.lookup name = document.field? name := by
  rcases h with h | ⟨fields, rfl⟩
  · cases document with
    | obj fields => exact ⟨fields, rfl, fun _ => rfl⟩
    | null | bool | int | float | str | arr | foreign =>
      exact ⟨[], by simp only [entries, if_pos h], fun _ => rfl⟩
  · exact ⟨fields, rfl, fun _ => rfl⟩

theorem entries_of_not_met (h : ¬ Demand.mapping.Met levelName document) :
    entries document = .error .notMapping := by
  have he : ¬ document.isEmpty = true := fun he => h (Or.inl he)
  cases document with
  | obj fields => exact absurd (Or.inr ⟨fields, rfl⟩) h
  | null | bool | int | float | str | arr | foreign => simp only [entries, if_neg he]

theorem readFormat_of_entry {entry : Option Value} {f : Format}
    (h : entry.getD (.str "json") = .str f.name) : readFormat path entry = .ok f := by
  cases entry with
  | none =>
    have hf : Format.ofName? "json" = some f :=
      Format.ofName?_eq_some.mpr (Value.str.inj h).symm
    exact congrArg Except.ok (Option.some.inj hf)
  | some v =>
    obtain rfl : v = .str f.name := h
    simp only [readFormat, Format.ofName?_eq_some.mpr rfl]

theorem exists_format (h : Demand.format.Met levelName document) :
    ∃ f : Format, (document.field? "output").getD (.str "json") = .str f.name := by
  simp only [Demand.Met, List.mem_cons, List.not_mem_nil, or_false] at h
  rcases h with h | h | h
  · exact ⟨.json, by rw [h]; rfl⟩
  · exact ⟨.json, by rw [h]; rfl⟩
  · exact ⟨.table, by rw [h]; rfl⟩

theorem readFormat_of_not_met (h : ¬ Demand.format.Met levelName document) :
    readFormat path (document.field? "output") =
      .error (Demand.format.refusal path levelName document) := by
  rw [Demand.refusal]
  simp only [Demand.Met, List.mem_cons, List.not_mem_nil, or_false, not_or] at h
  generalize document.field? "output" = entry at h
  obtain ⟨hnone, hjson, htable⟩ := h
  cases entry with
  | none => exact absurd rfl hnone
  | some v =>
    cases v with
    | str name =>
      have hn : Format.ofName? name = none := by
        rw [Option.eq_none_iff_forall_ne_some]
        intro f hf
        obtain rfl := Format.ofName?_eq_some.mp hf
        cases f with
        | json => exact hjson rfl
        | table => exact htable rfl
      simp only [readFormat, hn, Option.getD_some]
    | null | bool | int | float | arr | obj | foreign => rfl

theorem texts?_eq_some {items : List Value} {names : List String} :
    texts? items = some names ↔ items = names.map .str := by
  induction items generalizing names with
  | nil => cases names <;> simp [texts?]
  | cons item items ih =>
    cases item with
    | str s => cases names <;> simp [texts?, ih, and_comm]
    | null | bool | int | float | arr | obj | foreign => cases names <;> simp [texts?]

theorem readExtensions_of_names {entry : Option Value} {names : List String}
    (h : NamesExtensions entry names) : readExtensions path (entry.getD .null) = .ok names := by
  cases h with
  | absent | null | single => rfl
  | list => simp only [readExtensions, Option.getD_some, texts?_eq_some.mpr rfl]

theorem readExtensions_of_not_met (h : ¬ Demand.extensions.Met levelName document) :
    readExtensions path ((document.field? "required_extensions").getD .null) =
      .error (Demand.extensions.refusal path levelName document) := by
  rw [Demand.refusal]
  rw [Demand.Met] at h
  generalize document.field? "required_extensions" = entry at h
  cases entry with
  | none => exact absurd ⟨_, .absent⟩ h
  | some v =>
    cases v with
    | null => exact absurd ⟨_, .null⟩ h
    | str name => exact absurd ⟨_, .single name⟩ h
    | arr items =>
      have hn : texts? items = none := by
        rw [Option.eq_none_iff_forall_ne_some]
        intro names hnames
        obtain rfl := texts?_eq_some.mp hnames
        exact h ⟨names, .list names⟩
      simp only [readExtensions, Option.getD_some, hn]
    | bool | int | float | obj | foreign => rfl

theorem read_of_follow {s : Settings} (hm : Demand.mapping.Met levelName document)
    (h : s.Follow levelName document) : read path levelName document = .ok s := by
  obtain ⟨fields, he, hl⟩ := entries_of_met hm
  obtain ⟨⟨extensions, trash⟩, format, level⟩ := s
  simp only [read, ofDocument, readLevel_of_name h.level, he, hl, readFormat_of_entry h.format,
    readExtensions_of_names h.extensions, ok_bind, pure_eq_ok]
  rw [show trash = _ from h.trash]
  rfl

theorem exists_follow (h : ∀ d : Demand, d.Met levelName document) :
    ∃ s : Settings, s.Follow levelName document := by
  obtain ⟨level, hl⟩ := exists_level (h .level)
  obtain ⟨format, hf⟩ := exists_format (h .format)
  obtain ⟨extensions, he⟩ := h .extensions
  exact ⟨⟨⟨extensions, _⟩, format, level⟩, hl, hf, he, rfl⟩

theorem read_of_first_unmet {d : Demand}
    (hb : ∀ c : Demand, c.rank < d.rank → c.Met levelName document)
    (hn : ¬ d.Met levelName document) :
    read path levelName document = .error (d.refusal path levelName document) := by
  cases d with
  | level => simp only [read, @readLevel_of_not_met path _ document hn, error_bind]
  | mapping =>
    obtain ⟨level, hl⟩ := exists_level (hb .level (by decide))
    simp only [read, ofDocument, readLevel_of_name hl, entries_of_not_met hn, ok_bind, error_bind,
      Demand.refusal]
  | format =>
    obtain ⟨level, hl⟩ := exists_level (hb .level (by decide))
    obtain ⟨fields, he, hfields⟩ := entries_of_met (hb .mapping (by decide))
    simp only [read, ofDocument, readLevel_of_name hl, he, hfields, readFormat_of_not_met hn,
      ok_bind, error_bind]
  | extensions =>
    obtain ⟨level, hl⟩ := exists_level (hb .level (by decide))
    obtain ⟨fields, he, hfields⟩ := entries_of_met (hb .mapping (by decide))
    obtain ⟨format, hf⟩ := exists_format (hb .format (by decide))
    simp only [read, ofDocument, readLevel_of_name hl, he, hfields, readFormat_of_entry hf,
      readExtensions_of_not_met hn, ok_bind, error_bind]

/-- Settings are read only if every demand is met, and then follow the document. -/
theorem met_and_follow {s : Settings} (h : read path levelName document = .ok s) :
    (∀ d : Demand, d.Met levelName document) ∧ s.Follow levelName document := by
  have hall : ∀ d : Demand, d.Met levelName document := by
    intro d
    by_contra hd
    obtain ⟨c, hb, hc⟩ := exists_first Demand.rank hd
    rw [read_of_first_unmet hb hc] at h
    cases h
  obtain ⟨other, ho⟩ := exists_follow hall
  rw [read_of_follow (hall .mapping) ho, Except.ok.injEq] at h
  exact ⟨hall, h ▸ ho⟩

theorem read_eq_error {e : SettingsError} (h : read path levelName document = .error e) :
    ∃ d : Demand, (∀ c : Demand, c.rank < d.rank → c.Met levelName document) ∧
      ¬ d.Met levelName document ∧ e = d.refusal path levelName document := by
  have hd : ∃ d : Demand, ¬ d.Met levelName document := by
    by_contra hall
    simp only [not_exists, not_not] at hall
    obtain ⟨s, hs⟩ := exists_follow hall
    rw [read_of_follow (hall .mapping) hs] at h
    cases h
  obtain ⟨d, hd⟩ := hd
  obtain ⟨c, hb, hc⟩ := exists_first Demand.rank hd
  rw [read_of_first_unmet hb hc, Except.error.injEq] at h
  exact ⟨c, hb, hc, h.symm⟩

end

theorem load_eq_read {read? : String → Option Value} {path : String} {levelName : Option String}
    {text : Option String} {document : Value}
    (h : text.elim (some .null) read? = some document) :
    load read? path levelName text = read path levelName document := by
  cases text with
  | none =>
    obtain rfl := Option.some.inj h
    rfl
  | some text =>
    rw [Option.elim_some] at h
    simp only [load, h]
    rfl

/-- Settings are read exactly if every demand is met, and they are those that follow the document.
Otherwise the first demand that is not met is refused and reported. Whatever reads the text of a
configuration file as a document, the settings of the file are those of the document. -/
theorem settings_of_document (path : String) (levelName : Option String) (document : Value) :
    ((∃ s, read path levelName document = .ok s) ↔ ∀ d : Demand, d.Met levelName document) ∧
    (∀ s, read path levelName document = .ok s ↔
      Demand.mapping.Met levelName document ∧ s.Follow levelName document) ∧
    (∀ e, read path levelName document = .error e ↔
      ∃ d : Demand, (∀ c : Demand, c.rank < d.rank → c.Met levelName document) ∧
        ¬ d.Met levelName document ∧ e = d.refusal path levelName document) ∧
    (∀ d : Demand, haltOfSettings (d.refusal path levelName document) =
      d.report path levelName document) ∧
    (∀ (read? : String → Option Value) (text : Option String),
      text.elim (some .null) read? = some document →
        load read? path levelName text = read path levelName document) := by
  refine ⟨⟨?_, ?_⟩, ?_, ?_, ?_, ?_⟩
  · rintro ⟨s, hs⟩
    exact (met_and_follow hs).1
  · intro hall
    obtain ⟨s, hs⟩ := exists_follow hall
    exact ⟨s, read_of_follow (hall .mapping) hs⟩
  · intro s
    constructor
    · intro h
      obtain ⟨hall, hs⟩ := met_and_follow h
      exact ⟨hall .mapping, hs⟩
    · rintro ⟨hm, hs⟩
      exact read_of_follow hm hs
  · intro e
    constructor
    · exact read_eq_error
    · rintro ⟨d, hb, hd, rfl⟩
      exact read_of_first_unmet hb hd
  · exact Demand.haltOfSettings_refusal path levelName document
  · exact fun _ _ => load_eq_read

/-- An unknown format is refused before extensions that are no list of names. -/
theorem settings_of_document_in_order :
    let document : Value := .obj [("required_extensions", .int 5), ("output", .str "xml")]
    let file := "required_extensions: 5\noutput: xml\n"
    let read? := fun text => if text = file then some document else none
    ∃ e, load read? "config.yaml" (some "info") (some file) = .error e ∧
      haltOfSettings e = .badSettings "Unknown output format in config.yaml: xml" := by
  intro document file read?
  obtain ⟨-, -, herror, hreport, hload⟩ :=
    settings_of_document "config.yaml" (some "info") document
  have hfirst : ∀ c : Demand, c.rank < Demand.format.rank → c.Met (some "info") document := by
    intro c hc
    cases c with
    | level => unfold Demand.Met; decide
    | mapping => exact Or.inr ⟨_, rfl⟩
    | format | extensions => exact absurd hc (by decide)
  have hunmet : ¬ Demand.format.Met (some "info") document := by
    unfold Demand.Met
    decide
  refine ⟨_, (hload read? (some file) ?_).trans ((herror _).mpr ⟨.format, hfirst, hunmet, rfl⟩),
    (hreport .format).trans ?_⟩
  · decide
  · rfl

end Settings

end MailFilter
