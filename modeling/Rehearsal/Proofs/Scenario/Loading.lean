import Mathlib.Data.List.Lex
import Mathlib.Data.List.Sort
import Mathlib.Data.String.Basic
import Rehearsal.Proofs.Disk.Entries
import Rehearsal.Proofs.Text.Splitting
import Rehearsal.Scenario.Loading

/-!
# Folders of scenarios

A folder is loaded file by file, in the order of the paths, up to the first file that cannot be read. Which
files these are and how they come one after another is a matter of their names alone: neither the order in
which the disk lists its entries nor anything else that lies about has a part in it.
-/
namespace Rehearsal.Scenario

open Disk (Location)

variable {d d' : Disk} {path : String} {l : Location}

/-- From a folder the names lead to a file with this content, and its own name has the extension `json`. -/
structure Candidate (d : Disk) (l : Location) (names : List String) (content : ByteArray) : Prop where
  there : d.entry? (l ++ names) = some (.file content)
  named : ∃ folders stem, stem ≠ "" ∧ names = folders ++ [stem ++ ".json"]

/-- Paths are compared name by name. -/
def Before (f g : List String × ByteArray) : Prop := List.Lex (· < ·) f.1 g.1

instance : Std.Asymm Before where
  asymm _ _ := Std.Asymm.asymm (r := List.Lex (· < ·)) _ _

/-- All candidates below a folder, each of them once, in the order of their paths. -/
structure Lists (d : Disk) (l : Location) (files : List (List String × ByteArray)) : Prop where
  mem_iff : ∀ names content, (names, content) ∈ files ↔ Candidate d l names content
  ascending : files.Pairwise Before

/-- The content is the text of the scenario. -/
def Parses (content : ByteArray) (s : Scenario) : Prop :=
  ∃ text, Disk.decode content = .ok text ∧ parse text = .ok s

/-- What comes of a file below the folder at a path. -/
def single (path : String) (f : List String × ByteArray) : Except Failure Scenario :=
  ofContent (f.1.foldl Disk.join path) (Disk.decode f.2)

/-! ## The files -/

theorem hasExtension_iff {name : String} :
    hasExtension name ↔ ∃ stem, stem ≠ "" ∧ name = stem ++ ".json" := by
  rw [hasExtension]
  constructor
  · intro h
    split at h
    · rename_i c rest found
      have whole := congrArg List.reverse (Text.eq_of_dropFront? found)
      refine ⟨String.ofList (c :: rest).reverse, by simp, ?_⟩
      rw [← String.toList_inj]
      simpa using whole
    · cases h
  · rintro ⟨stem, there, rfl⟩
    have found : Text.dropFront? ".json".toList.reverse (stem ++ ".json").toList.reverse =
        some stem.toList.reverse := by
      rw [String.toList_append, List.reverse_append]
      exact Text.dropFront?_append _ _
    rw [found]
    cases chars : stem.toList.reverse with
    | nil => simp_all
    | cons c rest => rfl

theorem named_iff {names : List String} : (names.getLast?.map hasExtension).getD false ↔
    ∃ folders stem, stem ≠ "" ∧ names = folders ++ [stem ++ ".json"] := by
  constructor
  · intro h
    cases last : names.getLast? with
    | none => simp [last] at h
    | some name =>
      obtain ⟨folders, rfl⟩ := List.getLast?_eq_some_iff.mp last
      rw [last] at h
      obtain ⟨stem, there, rfl⟩ := hasExtension_iff.mp h
      exact ⟨folders, stem, there, rfl⟩
  · rintro ⟨folders, stem, there, rfl⟩
    have extension : hasExtension (stem ++ ".json") := hasExtension_iff.mpr ⟨stem, there, rfl⟩
    simp [extension]

theorem pathLe_iff {a b : List String} : pathLe a b ↔ a = b ∨ List.Lex (· < ·) a b := by
  induction a generalizing b with
  | nil => cases b <;> simp [pathLe]
  | cons x xs ih =>
    cases b with
    | nil => simp [pathLe]
    | cons y ys =>
      rw [pathLe]
      by_cases same : x = y
      · subst same
        rw [if_pos rfl, ih, List.lex_cons_iff]
        simp
      · rw [if_neg same, decide_eq_true_iff]
        constructor
        · exact fun less => .inr (.rel less)
        · rintro (both | first)
          · exact absurd (List.cons.inj both).1 same
          · cases first with
            | rel less => exact less
            | cons => exact absurd rfl same

theorem pathLe_trans {a b c : List String} (first : pathLe a b) (second : pathLe b c) : pathLe a c := by
  rw [pathLe_iff] at *
  rcases first with rfl | first
  · exact second
  · rcases second with rfl | second
    · exact .inr first
    · exact .inr (List.lex_trans (fun h h' => h.trans h') first second)

theorem pathLe_total (a b : List String) : pathLe a b ∨ pathLe b a := by
  rw [pathLe_iff, pathLe_iff]
  rcases trichotomous_of (List.Lex (· < ·)) a b with less | same | less
  · exact .inl (.inr less)
  · exact .inl (.inl same)
  · exact .inr (.inr less)

theorem mem_filesIn_iff {names : List String} {content : ByteArray} (once : d.Unambiguous) :
    (names, content) ∈ filesIn d l ↔ Candidate d l names content := by
  rw [filesIn, List.mem_mergeSort, List.mem_filter, Disk.mem_filesBelow_iff once, named_iff]
  constructor
  · exact fun ⟨⟨_, there⟩, named⟩ => ⟨there, named⟩
  · rintro ⟨there, folders, stem, named⟩
    exact ⟨⟨by simp [named.2], there⟩, folders, stem, named⟩

/-- The files are sorted, and no two of them have the same names, so each comes before the next. -/
theorem lists_filesIn (once : d.Unambiguous) (l : Location) : Lists d l (filesIn d l) where
  mem_iff _ _ := mem_filesIn_iff once
  ascending := by
    have sorted : (filesIn d l).Pairwise fun f g => pathLe f.1 g.1 := by
      apply List.pairwise_mergeSort
      · exact fun _ _ _ => pathLe_trans
      · exact fun f g => by simpa using pathLe_total f.1 g.1
    have apart : ((filesIn d l).map Prod.fst).Nodup := by
      rw [filesIn, ((List.mergeSort_perm _ _).map Prod.fst).nodup_iff]
      exact (Disk.nodup_filesBelow once l).sublist (List.filter_sublist.map Prod.fst)
    exact sorted.imp₂ (fun _ _ le other => (pathLe_iff.mp le).resolve_left other)
      (List.pairwise_map.mp apart)

theorem Lists.unique {files files' : List (List String × ByteArray)} (lists : Lists d l files)
    (lists' : Lists d l files') : files' = files :=
  lists'.ascending.eq_of_mem_iff lists.ascending fun (names, content) => by
    rw [lists'.mem_iff, lists.mem_iff]

/-! ## What they come to -/

variable {files : List (List String × ByteArray)} {f : List String × ByteArray}

theorem single_eq_ok_iff {s : Scenario} : single path f = .ok s ↔ Parses f.2 s := by
  rw [single, Parses]
  cases decoded : Disk.decode f.2 with
  | error e => simp [ofContent]
  | ok text =>
    cases parsed : parse text with
    | error r => simp [ofContent, parsed]
    | ok t => simp [ofContent, parsed]

theorem Parses.unique {content : ByteArray} {s t : Scenario} (parses : Parses content s)
    (parses' : Parses content t) : t = s := by
  obtain ⟨text, decoded, parsed⟩ := parses
  obtain ⟨text', decoded', parsed'⟩ := parses'
  obtain rfl : text' = text := Except.ok.inj (decoded'.symm.trans decoded)
  exact Except.ok.inj (parsed'.symm.trans parsed)

theorem parses_of_mem {parts : List Scenario}
    (parse : List.Forall₂ (fun f part => Parses f.2 part) files parts) :
    ∀ f ∈ files, ∃ s, Parses f.2 s := by
  induction parse with
  | nil => nofun
  | cons head _ ih => exact List.forall_mem_cons.mpr ⟨⟨_, head⟩, ih⟩

theorem merge_of_parses {parts : List Scenario}
    (parse : List.Forall₂ (fun f part => Parses f.2 part) files parts) :
    merge path files = .ok (parts.flatMap (·.suites)) := by
  induction parse with
  | nil => rfl
  | @cons f part _ _ head _ ih =>
    have content : ofContent (f.1.foldl Disk.join path) (Disk.decode f.2) = .ok part :=
      single_eq_ok_iff.mpr head
    rw [merge, content, ih]
    rfl

theorem merge_of_error {before after : List (List String × ByteArray)} {e : Failure}
    (parse : ∀ g ∈ before, ∃ s, Parses g.2 s) (fails : single path f = .error e) :
    merge path (before ++ f :: after) = .error e := by
  induction before with
  | nil =>
    have content : ofContent (f.1.foldl Disk.join path) (Disk.decode f.2) = .error e := fails
    rw [List.nil_append, merge, content]
    rfl
  | cons g before ih =>
    obtain ⟨⟨s, head⟩, others⟩ := List.forall_mem_cons.mp parse
    have content : ofContent (g.1.foldl Disk.join path) (Disk.decode g.2) = .ok s :=
      single_eq_ok_iff.mpr head
    rw [List.cons_append, merge, content, ih others]
    rfl

/-- All files parse, or there is a first that does not. -/
theorem parse_or_first (path : String) (files : List (List String × ByteArray)) :
    (∃ parts, List.Forall₂ (fun f part => Parses f.2 part) files parts) ∨
    ∃ before f after e, files = before ++ f :: after ∧ (∀ g ∈ before, ∃ s, Parses g.2 s) ∧
      single path f = .error e := by
  induction files with
  | nil => exact .inl ⟨[], .nil⟩
  | cons f rest ih =>
    cases head : single path f with
    | error e => exact .inr ⟨[], f, rest, e, rfl, nofun, head⟩
    | ok s =>
      have parses := single_eq_ok_iff.mp head
      rcases ih with ⟨parts, parse⟩ | ⟨before, g, after, e, rfl, parse, fails⟩
      · exact .inl ⟨s :: parts, .cons parses parse⟩
      · have sound := List.forall_mem_cons.mpr ⟨⟨s, parses⟩, parse⟩
        exact .inr ⟨f :: before, g, after, e, rfl, sound, fails⟩

theorem load_of_folder (once : d.Unambiguous) (leads : d.find path = .ok (.present l .folder))
    (lists : Lists d l files) : load d path =
      if files = [] then .error (.unreadableScenario ("no scenario files under " ++ path))
      else Scenario.mk <$> merge path files := by
  rw [load, leads]
  simp only [ofFolder, lists.unique (lists_filesIn once l)]
  cases files with
  | nil => rfl
  | cons f rest =>
    rw [if_neg nofun, map_eq_pure_bind]

theorem load_of_parses (once : d.Unambiguous) (leads : d.find path = .ok (.present l .folder))
    (lists : Lists d l files) (some : files ≠ []) {parts : List Scenario}
    (parse : List.Forall₂ (fun f part => Parses f.2 part) files parts) :
    load d path = .ok ⟨parts.flatMap (·.suites)⟩ := by
  rw [load_of_folder once leads lists, if_neg some, merge_of_parses parse]
  rfl

theorem load_of_error (once : d.Unambiguous) (leads : d.find path = .ok (.present l .folder))
    {before after : List (List String × ByteArray)} {e : Failure}
    (lists : Lists d l (before ++ f :: after)) (parse : ∀ g ∈ before, ∃ s, Parses g.2 s)
    (fails : single path f = .error e) : load d path = .error e := by
  rw [load_of_folder once leads lists, if_neg (by simp), merge_of_error parse fails]
  rfl

/-- A folder that is loaded has files, and each of them parses. -/
theorem parses_of_load (once : d.Unambiguous) (leads : d.find path = .ok (.present l .folder))
    (lists : Lists d l files) {s : Scenario} (loaded : load d path = .ok s) : files ≠ [] ∧
      ∃ parts, List.Forall₂ (fun f part => Parses f.2 part) files parts ∧
        s.suites = parts.flatMap (·.suites) := by
  have some : files ≠ [] := by
    intro none
    rw [load_of_folder once leads lists, if_pos none] at loaded
    cases loaded
  refine ⟨some, ?_⟩
  rcases parse_or_first path files with ⟨parts, parse⟩ | ⟨before, f, after, e, rfl, parse, fails⟩
  · rw [load_of_parses once leads lists some parse] at loaded
    cases loaded
    exact ⟨parts, parse, rfl⟩
  · cases (load_of_error once leads lists parse fails).symm.trans loaded

/-- If there is a file and all of them parse, the folder is loaded. -/
theorem exists_load (once : d.Unambiguous) (leads : d.find path = .ok (.present l .folder))
    (lists : Lists d l files) (some : files ≠ []) (parse : ∀ f ∈ files, ∃ s, Parses f.2 s) :
    ∃ s, load d path = .ok s := by
  rcases parse_or_first path files with ⟨parts, parsed⟩ | ⟨before, f, after, e, rfl, -, fails⟩
  · exact ⟨_, load_of_parses once leads lists some parsed⟩
  · obtain ⟨s, parses⟩ := parse f (by simp)
    cases (single_eq_ok_iff.mpr parses).symm.trans fails

/-- Only the candidates below the folder count. -/
theorem load_congr (once : d.Unambiguous) (once' : d'.Unambiguous)
    (leads : d.find path = .ok (.present l .folder)) (leads' : d'.find path = .ok (.present l .folder))
    (same : ∀ names content, Candidate d' l names content ↔ Candidate d l names content) :
    load d' path = load d path := by
  have lists := lists_filesIn once l
  have lists' : Lists d' l (filesIn d l) :=
    ⟨fun names content => (lists.mem_iff names content).trans (same names content).symm, lists.ascending⟩
  rw [load_of_folder once leads lists, load_of_folder once' leads' lists']

/-- A folder is loaded exactly if there are candidates below it and all of them parse. The suites are then
those of all the files, one file after the other in the order of their paths; if there are files that do not
parse, the failure is that of the first of them. Entries that are no candidates and the order in which the
disk lists its entries make no difference. -/
theorem load_folder (once : d.Unambiguous) (leads : d.find path = .ok (.present l .folder)) :
    ∃ files, (∀ others, Lists d l others ↔ others = files) ∧
      ((∃ s, load d path = .ok s) ↔ (∃ names content, Candidate d l names content) ∧
        ∀ names content, Candidate d l names content → ∃ s, Parses content s) ∧
      (∀ s, load d path = .ok s → ∃ parts,
        List.Forall₂ (fun f part => Parses f.2 part) files parts ∧ s.suites = parts.flatMap (·.suites)) ∧
      (∀ before f after e, files = before ++ f :: after → (∀ g ∈ before, ∃ s, Parses g.2 s) →
        single path f = .error e → load d path = .error e) ∧
      (∀ d' : Disk, d'.Unambiguous → d'.find path = .ok (.present l .folder) →
        (∀ names content, Candidate d' l names content ↔ Candidate d l names content) →
        load d' path = load d path) ∧
      ∀ d' : Disk, d'.Unambiguous → d'.home = d.home → d.entries ⊆ d'.entries →
        (∀ names content, Candidate d' l names content → Candidate d l names content) →
        load d' path = load d path := by
  have lists := lists_filesIn once l
  refine ⟨filesIn d l, fun others => ⟨lists.unique, fun same => same ▸ lists⟩,
    ⟨?_, ?_⟩, ?_, ?_, ?_, ?_⟩
  · rintro ⟨s, loaded⟩
    obtain ⟨some, parts, parse, -⟩ := parses_of_load once leads lists loaded
    obtain ⟨⟨names, content⟩, among⟩ := List.exists_mem_of_ne_nil _ some
    refine ⟨⟨names, content, (lists.mem_iff _ _).mp among⟩, fun names content candidate => ?_⟩
    exact parses_of_mem parse _ ((lists.mem_iff _ _).mpr candidate)
  · rintro ⟨⟨names, content, candidate⟩, parse⟩
    have among := (lists.mem_iff _ _).mpr candidate
    exact exists_load once leads lists (List.ne_nil_of_mem among) fun (names, content) among =>
      parse names content ((lists.mem_iff _ _).mp among)
  · exact fun s loaded => (parses_of_load once leads lists loaded).2
  · intro before f after e whole parse fails
    rw [whole] at lists
    exact load_of_error once leads lists parse fails
  · exact fun d' once' leads' same => load_congr once once' leads leads' same
  · intro d' once' home among fewer
    have within := Disk.within_of_subset once once' home among
    refine load_congr once once' leads (within.find_eq leads) fun names content => ⟨fewer names content, ?_⟩
    exact fun candidate => ⟨within.keeps _ _ candidate.there, candidate.named⟩

/-- A file in a folder of its own comes first, though its path as a text does not. What else is there is a
note, a link and a folder with the name of a file, and the disk lists them as it likes. -/
theorem load_folder_of_nested :
    let suite (id : String) : Suite := { id, name := "", cases := [] }
    let text (id : String) :=
      "\x7b\"testSuites\":[\x7b\"id\":\"" ++ id ++ "\",\"name\":\"\",\"testCases\":[]\x7d]\x7d"
    let d : Disk := ⟨[], [(["t"], .folder), (["t", "a-b.json"], .file (text "2").toUTF8),
      (["t", "a"], .folder), (["t", "a", "b.json"], .file (text "1").toUTF8)]⟩
    let d' : Disk := ⟨[], [(["t", "z.json"], .folder), (["t", "a"], .folder),
      (["t", "a", "b.json"], .file (text "1").toUTF8), (["t", "a", "note.txt"], .file .empty),
      (["t"], .folder), (["t", "a-b.json"], .file (text "2").toUTF8),
      (["t", "b.json"], .link "a-b.json")]⟩
    d.Unambiguous ∧ d.find "t" = .ok (.present ["t"] .folder) ∧
      load d "t" = .ok ⟨[suite "1", suite "2"]⟩ ∧ load d' "t" = load d "t" := by
  intro suite text d d'
  have once : d.Unambiguous := by decide
  have once' : d'.Unambiguous := by decide
  have named : Disk.Single "t" := by decide
  have leads : d.find "t" = .ok (.present ["t"] .folder) :=
    Disk.find_of_route named.sought named.spelled
      (.enter named.ordinary (by decide) rfl (.done 40 ["t"]))
  have deep : Candidate d ["t"] ["a", "b.json"] (text "1").toUTF8 :=
    ⟨rfl, ["a"], "b", by decide, rfl⟩
  have flat : Candidate d ["t"] ["a-b.json"] (text "2").toUTF8 := ⟨rfl, [], "a-b", by decide, rfl⟩
  have listed : Lists d ["t"]
      [(["a", "b.json"], (text "1").toUTF8), (["a-b.json"], (text "2").toUTF8)] := by
    refine ⟨fun names content => ⟨fun among => ?_, fun candidate => ?_⟩, ?_⟩
    · simp only [List.mem_cons, Prod.mk.injEq, List.not_mem_nil, or_false] at among
      rcases among with ⟨rfl, rfl⟩ | ⟨rfl, rfl⟩
      · exact deep
      · exact flat
    · have there := (Disk.entry?_eq_some_iff once (by simp)).mp candidate.there
      simpa [d, or_comm] using there
    · exact List.pairwise_pair.mpr (.rel (by decide))
  obtain ⟨files, only, loads, read, -, -, more⟩ := load_folder once leads
  obtain rfl := (only _).mp listed
  have first : Parses (text "1").toUTF8 ⟨[suite "1"]⟩ :=
    ⟨text "1", Disk.decode_toUTF8 _, by decide +kernel⟩
  have second : Parses (text "2").toUTF8 ⟨[suite "2"]⟩ :=
    ⟨text "2", Disk.decode_toUTF8 _, by decide +kernel⟩
  have all (names : List String) (content : ByteArray) (candidate : Candidate d ["t"] names content) :
      ∃ s, Parses content s := by
    rcases List.mem_pair.mp ((listed.mem_iff _ _).mpr candidate) with same | same
    · cases same
      exact ⟨_, first⟩
    · cases same
      exact ⟨_, second⟩
  refine ⟨once, leads, ?_, more d' once' rfl ?_ ?_⟩
  · obtain ⟨s, loaded⟩ := loads.mpr ⟨⟨_, _, deep⟩, all⟩
    obtain ⟨parts, parse, suites⟩ := read s loaded
    cases parse with
    | cons head tail =>
      cases tail with
      | cons head' tail =>
        cases tail
        rw [first.unique head, second.unique head'] at suites
        rw [loaded]
        cases s
        cases suites
        rfl
  · simp [d, d']
  · intro names content candidate
    have extension := named_iff.mpr candidate.named
    have there := (Disk.entry?_eq_some_iff once' (by simp)).mp candidate.there
    simp [d'] at there
    rcases there with ⟨rfl, rfl⟩ | ⟨rfl, rfl⟩ | ⟨rfl, rfl⟩
    · exact deep
    · exact absurd extension (by decide)
    · exact flat

end Rehearsal.Scenario
