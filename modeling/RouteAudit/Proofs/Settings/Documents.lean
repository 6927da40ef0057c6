import RouteAudit.Proofs.Settings.Namespaces
import RouteAudit.Proofs.Text.Readings
import RouteAudit.Settings.Document

/-!
# Where database settings come from

The database settings of a namespace are read from one section: its own, or the one at the top
of the document if it has none.  What that section does not write is the default.  So a section
of its own takes the place of the one at the top as a whole, and nothing that is written at the
top reaches a namespace that has one.
-/

namespace RouteAudit

/-!
# The settings of a database

They are looked at by name, each as a text or a number.
-/

inductive SettingValue where
  | text (s : String)
  | number (n : Int)
  deriving DecidableEq, Repr

def SettingValue.ofToml? : Toml → Option SettingValue
  | .string s => some (.text s)
  | .integer n => some (.number n)
  | _ => none

inductive DatabaseField where
  | host
  | port
  | socket
  | applNumber
  | asicNumber
  | configNumber
  deriving DecidableEq, Repr

namespace DatabaseField

def name : DatabaseField → String
  | .host => "redis_host"
  | .port => "redis_port"
  | .socket => "unix_socket"
  | .applNumber => "appl_db_number"
  | .asicNumber => "asic_db_number"
  | .configNumber => "config_db_number"

/-- The place of a setting in a section that is an array. -/
def position : DatabaseField → Nat
  | .host => 0
  | .port => 1
  | .socket => 2
  | .applNumber => 3
  | .asicNumber => 4
  | .configNumber => 5

/-- What a section writes for a setting. -/
def written? (f : DatabaseField) (s : Section) : Option SettingValue :=
  (s.find? f.name f.position).bind SettingValue.ofToml?

/-- What a setting is, where it is anything: a socket may be left out. -/
def value? (f : DatabaseField) (d : DatabaseSettings) : Option SettingValue :=
  match f with
  | .host => some (.text d.host)
  | .port => some (.number d.port)
  | .socket => d.socket.map .text
  | .applNumber => some (.number d.applNumber)
  | .asicNumber => some (.number d.asicNumber)
  | .configNumber => some (.number d.configNumber)

def default? (f : DatabaseField) : Option SettingValue := f.value? {}

end DatabaseField

/-!
# Sections of a document
-/

namespace Settings

/-- The section of database settings at the top. -/
def topDatabase? (entries : List (String × Toml)) : Option Section :=
  (Toml.entry? "database" entries).bind Section.ofValue?

/-- The namespaces as they are written, in their order. -/
def namespaceItems (entries : List (String × Toml)) : List Toml :=
  match Toml.entry? "namespace" entries with
  | some (.array items) => items
  | _ => []

/-- The name written in a namespace. -/
def ownName? (item : Toml) : Option String :=
  ((Section.ofValue? item).bind (·.find? "name" 0)).bind Setting.text?

/-- The section of database settings inside a namespace. -/
def ownDatabase? (item : Toml) : Option Section :=
  ((Section.ofValue? item).bind (·.find? "database" 1)).bind Section.ofValue?

end Settings

/-!
# One section

A setting that is read is the one written, and the default where none is.
-/

/-- A way to read a setting, whose result is what is written. -/
def Setting.Reads {α : Type} (read? : Toml → Option α) (value? : α → Option SettingValue) :
    Prop :=
  ∀ v a, read? v = some a →
    value? a = SettingValue.ofToml? v ∧ (SettingValue.ofToml? v).isSome

theorem Section.value_of_get? {α : Type} {s : Section} {name : String} {position : Nat}
    {byDefault a : α} {read? : Toml → Option α} {value? : α → Option SettingValue}
    (hread : Setting.Reads read? value?)
    (h : s.get? name position byDefault read? = some a) :
    value? a = ((s.find? name position).bind SettingValue.ofToml?).or (value? byDefault) := by
  unfold Section.get? at h
  cases hfind : s.find? name position with
  | none =>
      rw [hfind] at h
      cases h
      rfl
  | some v =>
      rw [hfind] at h
      rcases hread v a h with ⟨hvalue, hsome⟩
      rw [Option.bind_some, Option.or_of_isSome hsome]
      exact hvalue

theorem Setting.reads_text : Setting.Reads Setting.text? fun s => some (.text s) := by
  intro v s h
  unfold Setting.text? at h
  split at h
  · cases h
    exact ⟨rfl, rfl⟩
  · cases h

theorem Setting.reads_path : Setting.Reads Setting.path? fun path => path.map .text := by
  intro v path h
  rcases Option.map_eq_some_iff.mp h with ⟨s, hs, rfl⟩
  exact Setting.reads_text v s hs

theorem Setting.reads_number (bits : Nat) :
    Setting.Reads (Setting.number? bits) fun n => some (.number n) := by
  intro v n h
  unfold Setting.number? at h
  split at h
  · split at h
    · rename_i hrange
      cases h
      dsimp only
      rw [Int.toNat_of_nonneg hrange.1]
      exact ⟨rfl, rfl⟩
    · cases h
  · cases h

theorem DatabaseSettings.value_of_ofValue? {v : Toml} {d : DatabaseSettings}
    (h : DatabaseSettings.ofValue? v = some d) :
    exists s, Section.ofValue? v = some s ∧
      ∀ f : DatabaseField, f.value? d = (f.written? s).or f.default? := by
  simp only [DatabaseSettings.ofValue?, Option.bind_eq_bind, Option.bind_eq_some_iff] at h
  rcases h with ⟨s, hs, host, hhost, port, hport, socket, hsocket, appl, happl, asic, hasic,
    config, hconfig, hd⟩
  cases hd
  refine ⟨s, hs, ?_⟩
  intro f
  cases f with
  | host => exact (Section.value_of_get? Setting.reads_text hhost :)
  | port => exact (Section.value_of_get? (Setting.reads_number 16) hport :)
  | socket => exact (Section.value_of_get? Setting.reads_path hsocket :)
  | applNumber => exact (Section.value_of_get? (Setting.reads_number 32) happl :)
  | asicNumber => exact (Section.value_of_get? (Setting.reads_number 32) hasic :)
  | configNumber => exact (Section.value_of_get? (Setting.reads_number 32) hconfig :)

/-!
# The sections of a document
-/

theorem NamespaceSettings.written_of_ofValue? {item : Toml} {n : NamespaceSettings}
    (h : NamespaceSettings.ofValue? item = some n) :
    Settings.ownName? item = some n.name ∧
      (n.database = none ∧ Settings.ownDatabase? item = none ∨
        exists d s, n.database = some d ∧ Settings.ownDatabase? item = some s ∧
          ∀ f : DatabaseField, f.value? d = (f.written? s).or f.default?) := by
  simp only [NamespaceSettings.ofValue?, Option.bind_eq_bind] at h
  rcases Option.bind_eq_some_iff.mp h with ⟨s, hs, h⟩
  rcases Option.bind_eq_some_iff.mp h with ⟨name, hname, h⟩
  rcases Option.bind_eq_some_iff.mp h with ⟨database, hdatabase, h⟩
  cases h
  unfold Settings.ownName? Settings.ownDatabase?
  rw [hs, Option.bind_some, Option.bind_some]
  refine ⟨hname, ?_⟩
  unfold Section.get? at hdatabase
  cases hfind : s.find? "database" 1 with
  | none =>
      rw [hfind] at hdatabase
      cases hdatabase
      exact Or.inl ⟨rfl, rfl⟩
  | some v =>
      rw [hfind] at hdatabase
      rcases Option.map_eq_some_iff.mp hdatabase with ⟨d, hd, rfl⟩
      rcases DatabaseSettings.value_of_ofValue? hd with ⟨own, hown, hvalue⟩
      exact Or.inr ⟨d, own, rfl, hown, hvalue⟩

namespace Settings

variable {text : String} {entries : List (String × Toml)} {s : Settings}

theorem parse_eq_ok_iff : parse text = .ok s ↔
    (Toml.parse? text).bind ofEntries? = some s ∧ s.validate = .ok () := by
  unfold parse
  cases hread : (Toml.parse? text).bind ofEntries? with
  | none => simp
  | some found =>
      rw [Option.some_inj]
      dsimp only
      split
      · rename_i hvalid
        constructor
        · intro h
          cases h
          exact ⟨rfl, hvalid⟩
        · intro h
          rw [h.1]
      · rename_i fault hfault
        constructor
        · intro h
          cases h
        · intro h
          rw [← h.1, hfault] at h
          cases h.2

theorem sections_of_ofEntries? (h : ofEntries? entries = some s) :
    (Section.named entries).get? "database" 0 {} DatabaseSettings.ofValue? = some s.database ∧
      (Section.named entries).get? "namespace" 3 [] namespaces? = some s.namespaces := by
  simp only [ofEntries?, Option.bind_eq_bind, Option.bind_eq_some_iff] at h
  rcases h with ⟨database, hdatabase, _, _, _, _, namespaces, hnamespaces, h⟩
  cases h
  exact ⟨hdatabase, hnamespaces⟩

theorem top_of_ofEntries? (h : ofEntries? entries = some s) (f : DatabaseField) :
    f.value? s.database = ((topDatabase? entries).bind f.written?).or f.default? := by
  have hdatabase := (sections_of_ofEntries? h).1
  unfold topDatabase?
  unfold Section.get? Section.find? at hdatabase
  dsimp only at hdatabase
  cases hfind : Toml.entry? "database" entries with
  | none =>
      rw [hfind] at hdatabase
      rw [← Option.some.inj hdatabase]
      rfl
  | some v =>
      rw [hfind] at hdatabase
      rcases DatabaseSettings.value_of_ofValue? hdatabase with ⟨top, htop, hvalue⟩
      rw [Option.bind_some, htop, Option.bind_some]
      exact hvalue f

theorem namespaces_of_ofEntries? (h : ofEntries? entries = some s) :
    List.Forall₂ (fun item n => NamespaceSettings.ofValue? item = some n)
      (namespaceItems entries) s.namespaces := by
  have hnamespaces := (sections_of_ofEntries? h).2
  unfold namespaceItems
  unfold Section.get? Section.find? at hnamespaces
  dsimp only at hnamespaces
  cases hfind : Toml.entry? "namespace" entries with
  | none =>
      rw [hfind] at hnamespaces
      rw [← Option.some.inj hnamespaces]
      exact .nil
  | some v =>
      rw [hfind] at hnamespaces
      cases v with
      | array items => exact mapM_eq_some_iff.mp hnamespaces
      | _ => cases hnamespaces

/-!
# Namespaces
-/

/-- The settings of a namespace come from its own section where it has one, and from the
section at the top where it has none; what that one section does not write is the default. -/
theorem database_from_one_section (h : parse text = .ok s) :
    exists (entries : List (String × Toml)) (all : List (String × DatabaseSettings)),
      Toml.parse? text = some entries ∧ s.resolve none = .ok all ∧
      (namespaceItems entries ≠ [] → all.length = (namespaceItems entries).length) ∧
      ∀ (i : Nat) (item : Toml), (namespaceItems entries)[i]? = some item →
        exists name d, ownName? item = some name ∧ all[i]? = some (name, d) ∧
          s.resolve (some name) = .ok [(name, d)] ∧
          ∀ f : DatabaseField, f.value? d =
            (((ownDatabase? item).or (topDatabase? entries)).bind f.written?).or
              f.default? := by
  rcases parse_eq_ok_iff.mp h with ⟨hread, hvalid⟩
  rcases Option.bind_eq_some_iff.mp hread with ⟨entries, hentries, hsettings⟩
  have hpairs := namespaces_of_ofEntries? hsettings
  refine ⟨entries, s.allNamespaces, hentries, rfl, ?_, ?_⟩
  · intro hitems
    have hnamespaces : s.namespaces ≠ [] := by
      intro hnil
      rw [hnil] at hpairs
      exact hitems (List.forall₂_nil_right_iff.mp hpairs)
    rw [allNamespaces_of_ne_nil hnamespaces, List.length_map, hpairs.length_eq]
  · intro i item hitem
    rcases exists_getElem?_of_forall₂ hpairs hitem with ⟨n, hnamespace, hread⟩
    rcases NamespaceSettings.written_of_ofValue? hread with ⟨hname, hdatabase⟩
    have hall : s.allNamespaces[i]? = some (n.name, n.database.getD s.database) := by
      rw [allNamespaces_of_ne_nil (List.ne_nil_of_mem (List.mem_of_getElem? hnamespace)),
        List.getElem?_map, hnamespace]
      rfl
    refine ⟨n.name, n.database.getD s.database, hname, hall,
      resolve_of_mem hvalid (List.mem_of_getElem? hall), ?_⟩
    intro f
    rcases hdatabase with ⟨hnone, hown⟩ | ⟨d, own, hsome, hown, hvalue⟩
    · rw [hnone, hown]
      exact top_of_ofEntries? hsettings f
    · rw [hsome, hown]
      exact hvalue f

/-- A document with a port at the top and two namespaces, one of which has a section of its
own with only a socket. -/
def layeredDocument : String :=
  "[database]\nredis_port = 6380\n[[namespace]]\nname = \"asic0\"\n" ++
    "[namespace.database]\nunix_socket = \"/run/redis0.sock\"\n" ++
    "[[namespace]]\nname = \"asic1\"\n"

def layeredSettings : Settings where
  database := { port := 6380 }
  namespaces := [⟨"asic0", some { socket := some "/run/redis0.sock" }⟩, ⟨"asic1", none⟩]

theorem parse_layeredDocument : parse layeredDocument = .ok layeredSettings :=
  parse_eq_ok_iff.mpr ⟨by decide +kernel, by decide +kernel⟩

theorem database_of_layeredDocument :
    parse layeredDocument = .ok layeredSettings ∧
      exists (entries : List (String × Toml)) (all : List (String × DatabaseSettings)),
        Toml.parse? layeredDocument = some entries ∧ layeredSettings.resolve none = .ok all ∧
        (namespaceItems entries ≠ [] → all.length = (namespaceItems entries).length) ∧
        ∀ (i : Nat) (item : Toml), (namespaceItems entries)[i]? = some item →
          exists name d, ownName? item = some name ∧ all[i]? = some (name, d) ∧
            layeredSettings.resolve (some name) = .ok [(name, d)] ∧
            ∀ f : DatabaseField, f.value? d =
              (((ownDatabase? item).or (topDatabase? entries)).bind f.written?).or
                f.default? :=
  ⟨parse_layeredDocument, database_from_one_section parse_layeredDocument⟩

/-- The port at the top does not reach a namespace whose own section has none. -/
theorem own_section_hides_top :
    parse layeredDocument = .ok layeredSettings ∧
      exists (entries : List (String × Toml)) (item : Toml) (d : DatabaseSettings),
        Toml.parse? layeredDocument = some entries ∧
        (namespaceItems entries)[0]? = some item ∧ ownName? item = some "asic0" ∧
        layeredSettings.resolve (some "asic0") = .ok [("asic0", d)] ∧
        (ownDatabase? item).bind DatabaseField.port.written? = none ∧
        (topDatabase? entries).bind DatabaseField.port.written? = some (.number 6380) ∧
        DatabaseField.port.value? d = some (.number 6379) := by
  have hwritten : (Toml.parse? layeredDocument).map (fun entries =>
      (((namespaceItems entries)[0]?).map fun item =>
        (ownName? item, (ownDatabase? item).bind DatabaseField.port.written?),
      (topDatabase? entries).bind DatabaseField.port.written?)) =
        some (some (some "asic0", none), some (.number 6380)) := by
    decide +kernel
  rcases Option.map_eq_some_iff.mp hwritten with ⟨entries, hentries, hparts⟩
  rcases Prod.mk.inj hparts with ⟨hitem, htop⟩
  rcases Option.map_eq_some_iff.mp hitem with ⟨item, hfirst, hown⟩
  rcases Prod.mk.inj hown with ⟨hname, hport⟩
  exact ⟨parse_layeredDocument, entries, item, _, hentries, hfirst, hname, rfl, hport, htop, rfl⟩

end Settings
end RouteAudit
