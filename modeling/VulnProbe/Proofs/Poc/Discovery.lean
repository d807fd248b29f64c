import Mathlib.Data.Bool.AllAny
import VulnProbe.Poc.Files
import VulnProbe.Proofs.Dict
import VulnProbe.Proofs.Files.Order
import VulnProbe.Proofs.Files.Search

namespace VulnProbe.Poc

open Files (Disk Entry IsName IsPlain Pattern Search)

variable {disk : Disk} {location name : String} {entries : List (String × Entry)}

/-- A name that a definition has in a directory. -/
def EndsAsDefinition (name : String) : Prop :=
  ".yml".toList <:+ name.toList ∨ ".yaml".toList <:+ name.toList

instance : DecidablePred EndsAsDefinition :=
  fun _ => inferInstanceAs (Decidable (_ ∨ _))

private theorem isName_of_endsAsDefinition (hslash : '/' ∉ name.toList) (hends : EndsAsDefinition name) :
    IsName name := by
  refine ⟨hslash, ?_, ?_, ?_⟩
  all_goals
    rintro rfl
    exact absurd hends (by decide)

/-- What is found for a directory: the names of its files for definitions, in order and each once, as
    paths that are in order too and lead to what the names lead to behind the path of the directory. -/
structure ListsDirectory (disk : Disk) (location : String) (entries : List (String × Entry)) (dir : String)
    (names : List String) : Prop where
  mem_iff : ∀ name, name ∈ names ↔
    (∃ content, Dict.get? name entries = some (.file content)) ∧ EndsAsDefinition name
  increasing : names.Pairwise (· < ·)
  ordered : (names.map (Search.below dir)).Pairwise fun a b =>
    Files.isBefore (Files.parts a) (Files.parts b) = true
  find_eq : ∀ name ∈ names,
    disk.find (Search.below dir name) = disk.find (Files.join location name)

/-- The names with an ending. -/
def namesEnding (entries : List (String × Entry)) (ending : String) : List String :=
  (entries.map (·.1)).filter (Pattern.accepts (.endingWith ending.toList) ·.toList)

private theorem mem_namesEnding_iff {ending : String} :
    name ∈ namesEnding entries ending ↔ name ∈ entries.map (·.1) ∧ ending.toList <:+ name.toList := by
  rw [namesEnding, List.mem_filter, Pattern.accepts_endingWith_iff]

/-- The names that the searches of a directory find. -/
def candidates (entries : List (String × Entry)) : List String :=
  namesEnding entries ".yml" ++ namesEnding entries ".yaml"

private theorem mem_candidates_iff :
    name ∈ candidates entries ↔ name ∈ entries.map (·.1) ∧ EndsAsDefinition name := by
  rw [candidates, List.mem_append, mem_namesEnding_iff, mem_namesEnding_iff, ← and_or_left,
    EndsAsDefinition]

private theorem exists_searches_eq (hfind : disk.find location = .ok (.directory entries))
    (hplain : IsPlain location) :
    ∃ dir place found, disk.Stands dir place ∧
      Files.entryAt? place disk.entries = some (.directory entries) ∧
      (searchesOf disk location).mapM disk.search = .ok found ∧
      found.flatten = (candidates entries).map (Search.below dir) := by
  obtain ⟨dir, place, hdir, hentry, hsearch⟩ := Files.exists_search_eq hplain hfind
  have hyml := hsearch "*.yml" ".yml".toList rfl (List.all_iff_forall_prop.mp rfl)
  have hyaml := hsearch "*.yaml" ".yaml".toList rfl (List.all_iff_forall_prop.mp rfl)
  rw [← namesEnding] at hyml hyaml
  have hdirectory : disk.isDirectory location = true := by rw [Disk.isDirectory, hfind]
  refine ⟨dir, place, [".yml", ".yaml"].map fun ending =>
    (namesEnding entries ending).map (Search.below dir), hdir, hentry, ?_, ?_⟩
  · rw [searchesOf, if_pos hdirectory, List.map_cons, List.map_singleton, List.mapM_cons, hyml,
      List.mapM_cons, hyaml]
    rfl
  · rw [candidates, List.map_append, List.map_cons, List.map_singleton, List.flatten_cons,
      List.flatten_singleton]

/-- Every file for a definition in the directory of a plain path is discovered, in order and once, and
    nothing else is. Without one the discovery fails. -/
theorem discover_directory (hfind : disk.find location = .ok (.directory entries))
    (hplain : IsPlain location) (hnames : ∀ name ∈ entries.map Prod.fst, '/' ∉ name.toList) :
    ∃ dir names, ListsDirectory disk location entries dir names ∧
      discover disk location =
        if names = [] then .error (.definitionLoad (.nothingMatched location))
        else .ok (names.map (Search.below dir)) := by
  obtain ⟨dir, place, found, hdir, hentry, hsearches, hfound⟩ := exists_searches_eq hfind hplain
  let files := (candidates entries).filter (disk.isFile ∘ Search.below dir)
  have hfiles : found.flatten.filter disk.isFile = files.map (Search.below dir) := by
    rw [hfound, List.filter_map]
  have hname : ∀ name ∈ candidates entries, IsName name := fun name hmem =>
    isName_of_endsAsDefinition (hnames name (mem_candidates_iff.mp hmem).1) (mem_candidates_iff.mp hmem).2
  have hmem : ∀ name, name ∈ files ↔
      (∃ content, Dict.get? name entries = some (.file content)) ∧ EndsAsDefinition name := by
    intro name
    rw [List.mem_filter, Function.comp_apply]
    constructor
    · rintro ⟨hcandidate, hfile⟩
      refine ⟨?_, (mem_candidates_iff.mp hcandidate).2⟩
      rw [Disk.isFile, hdir.find_below (hname name hcandidate) hentry] at hfile
      rcases hget : Dict.get? name entries with _ | (content | inner)
      · rw [hget] at hfile
        cases hfile
      · exact ⟨content, rfl⟩
      · rw [hget] at hfile
        cases hfile
    · rintro ⟨⟨content, hget⟩, hends⟩
      have hcandidate : name ∈ candidates entries :=
        mem_candidates_iff.mpr ⟨List.mem_map_of_mem (Dict.mem_of_get? hget), hends⟩
      refine ⟨hcandidate, ?_⟩
      rw [Disk.isFile, hdir.find_below (hname name hcandidate) hentry, hget]
      rfl
  have hparts : Files.EndsWithNames (Search.below dir)
      (if Search.isCurrent dir then [] else Files.parts dir) files := fun name hfile =>
    Files.parts_below (hname name (List.mem_filter.mp hfile).1) hdir.ne_empty
  obtain ⟨names, hsorted, hincreasing, hsame⟩ := Files.exists_sorted_map_eq hparts
  refine ⟨dir, names, ⟨fun name => (hsame name).trans (hmem name), hincreasing, ?_, ?_⟩, ?_⟩
  · have hordered : Files.EndsWithNames (Search.below dir) _ names := fun name hmem =>
      hparts name ((hsame name).mp hmem)
    exact hordered.pairwise_isBefore hincreasing
  · intro name hmem
    have hname := hname name (List.mem_filter.mp ((hsame name).mp hmem)).1
    rw [hdir.find_below hname hentry, Disk.find_join hfind hname]
  · have hnotFile : disk.isFile location = false := by rw [Disk.isFile, hfind]
    rw [discover, hnotFile, if_neg Bool.false_ne_true, hsearches]
    dsimp only
    rw [hfiles, hsorted]
    cases names with
    | nil => rfl
    | cons first rest => rfl

/-- A directory with a file for a definition, another file, and a directory that is named as if it held a
    definition. -/
theorem discover_directory_sample :
    let entries : List (String × Entry) :=
      [("a.yml", .file []), ("b.yaml", .directory []), ("c.txt", .file [])]
    let disk : Disk := ⟨[("pocs", .directory entries)], []⟩
    disk.find "./pocs//" = .ok (.directory entries) ∧ IsPlain "./pocs//" ∧
      discover disk "./pocs//" = .ok ["pocs/a.yml"] ∧
      ∃ dir names, ListsDirectory disk "./pocs//" entries dir names ∧
        discover disk "./pocs//" =
          if names = [] then .error (.definitionLoad (.nothingMatched "./pocs//"))
          else .ok (names.map (Search.below dir)) := by
  intro entries disk
  have hfind : disk.find "./pocs//" = .ok (.directory entries) := rfl
  have hplain : IsPlain "./pocs//" :=
    ⟨List.all_iff_forall_prop.mp rfl, by decide⟩
  exact ⟨hfind, hplain, by decide +kernel +zetaReduce,
    discover_directory hfind hplain (by decide)⟩

/-- The path of a directory is read as a pattern: nothing is found for a directory with brackets in its
    name, or the files of another directory, and nothing behind the current directory and two slashes. -/
theorem discover_special_directory :
    let entries : List (String × Entry) := [("a.yml", .file [])]
    let disk : Disk := ⟨[("d1", .directory [("b.yml", .file [])]), ("d[1]", .directory entries),
      ("e[1]", .directory entries)], []⟩
    disk.find "e[1]" = .ok (.directory entries) ∧
      discover disk "e[1]" = .error (.definitionLoad (.nothingMatched "e[1]")) ∧
      disk.find "d[1]" = .ok (.directory entries) ∧ discover disk "d[1]" = .ok ["d1/b.yml"] ∧
      disk.find ".//d1" = .ok (.directory [("b.yml", .file [])]) ∧
      discover disk ".//d1" = .error (.definitionLoad (.nothingMatched ".//d1")) := by
  intro entries disk
  exact ⟨rfl, by decide +kernel +zetaReduce, rfl, by decide +kernel +zetaReduce, rfl,
    by decide +kernel +zetaReduce⟩

end VulnProbe.Poc
