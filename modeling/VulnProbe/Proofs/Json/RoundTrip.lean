import VulnProbe.Proofs.Dict
import VulnProbe.Proofs.Json.Scalars

namespace VulnProbe.Json

section Nesting

mutual
/-- The number of arrays and objects that are open at once where a value is deepest. -/
def nesting : Json → Nat
  | .array items => nestingOfItems items + 1
  | .object members => nestingOfMembers members + 1
  | _ => 0

/-- The greatest depth of some items. -/
def nestingOfItems : List Json → Nat
  | [] => 0
  | item :: rest => max item.nesting (nestingOfItems rest)

/-- The greatest depth of the values of some members. -/
def nestingOfMembers : List (String × Json) → Nat
  | [] => 0
  | (_, value) :: rest => max value.nesting (nestingOfMembers rest)
end

private theorem nestingOfItems_le_iff {items : List Json} {n : Nat} :
    nestingOfItems items ≤ n ↔ ∀ item ∈ items, item.nesting ≤ n := by
  induction items with
  | nil => simp [nestingOfItems]
  | cons item items ih => rw [nestingOfItems, Nat.max_le, ih, List.forall_mem_cons]

private theorem nestingOfMembers_le_iff {members : List (String × Json)} {n : Nat} :
    nestingOfMembers members ≤ n ↔ ∀ m ∈ members, m.2.nesting ≤ n := by
  induction members with
  | nil => simp [nestingOfMembers]
  | cons m members ih => rw [nestingOfMembers, Nat.max_le, ih, List.forall_mem_cons]

/-- An array opens one level around its items. -/
theorem nesting_array_le_iff {items : List Json} {n : Nat} :
    (Json.array items).nesting ≤ n + 1 ↔ ∀ item ∈ items, item.nesting ≤ n := by
  rw [nesting, Nat.add_le_add_iff_right, nestingOfItems_le_iff]

/-- An object opens one level around the values of its members. -/
theorem nesting_object_le_iff {members : List (String × Json)} {n : Nat} :
    (Json.object members).nesting ≤ n + 1 ↔ ∀ m ∈ members, m.2.nesting ≤ n := by
  rw [nesting, Nat.add_le_add_iff_right, nestingOfMembers_le_iff]

end Nesting

/-- A value without floating-point numbers: its integers have 64 bits and the members of each object are
    in order. -/
inductive IsExact : Json → Prop
  | null : IsExact .null
  | bool (b : Bool) : IsExact (.bool b)
  | int {i : Int} (hi : IsMachineInteger i) : IsExact (.int i)
  | string (s : String) : IsExact (.string s)
  | array {items : List Json} (hitems : ∀ item ∈ items, IsExact item) : IsExact (.array items)
  | object {members : List (String × Json)} (hsorted : Dict.Sorted members)
      (hmembers : ∀ m ∈ members, IsExact m.2) : IsExact (.object members)

section Layout

/-- The parts of an array or an object that follow its first, with the comma before each. -/
def moreParts {α : Type} (depth : Nat) (text : α → List Char) (parts : List α) : List Char :=
  parts.flatMap fun part => ',' :: ((lineAt depth).toList ++ text part)

/-- The items of an array that follow its first. -/
def moreItems (depth : Nat) (items : List Json) : List Char :=
  moreParts depth (fun item => (pretty depth item).toList) items

/-- The name of a member and its value. -/
def memberText (depth : Nat) (m : String × Json) : List Char :=
  (quote m.1).toList ++ ':' :: ' ' :: (pretty depth m.2).toList

/-- The members of an object that follow its first. -/
def moreMembers (depth : Nat) (members : List (String × Json)) : List Char :=
  moreParts depth (memberText depth) members

private theorem toList_intercalate_comma (s : String) (texts : List String) :
    (",".intercalate (s :: texts)).toList = s.toList ++ texts.flatMap fun t => ',' :: t.toList := by
  induction texts generalizing s with
  | nil => simp
  | cons t texts ih =>
    have hmore := ih t
    rw [String.toList_intercalate] at hmore ⊢
    rw [List.map_cons, List.map_cons, List.intercalate_cons_cons, ← List.map_cons, hmore]
    simp

private theorem prettyItems_eq_map (depth : Nat) (items : List Json) :
    prettyItems depth items = items.map fun item => lineAt depth ++ pretty depth item := by
  induction items with
  | nil => rw [prettyItems, List.map_nil]
  | cons item items ih => rw [prettyItems, ih, List.map_cons]

private theorem prettyMembers_eq_map (depth : Nat) (members : List (String × Json)) :
    prettyMembers depth members =
      members.map fun m => lineAt depth ++ quote m.1 ++ ": " ++ pretty depth m.2 := by
  induction members with
  | nil => rw [prettyMembers, List.map_nil]
  | cons m members ih => rw [prettyMembers, ih, List.map_cons]

private theorem toList_pretty_array (depth : Nat) (item : Json) (items : List Json) :
    (pretty depth (.array (item :: items))).toList =
      '[' :: ((lineAt (depth + 1)).toList ++ (pretty (depth + 1) item).toList ++
        moreItems (depth + 1) items ++ (lineAt depth).toList ++ [']']) := by
  rw [pretty, prettyItems_eq_map, List.map_cons]
  simp only [String.toList_append, toList_intercalate_comma, List.flatMap_map, moreItems, moreParts]
  simp

private theorem toList_pretty_object (depth : Nat) (m : String × Json) (members : List (String × Json)) :
    (pretty depth (.object (m :: members))).toList =
      '\x7b' :: ((lineAt (depth + 1)).toList ++ memberText (depth + 1) m ++
        moreMembers (depth + 1) members ++ (lineAt depth).toList ++ ['\x7d']) := by
  rw [pretty, prettyMembers_eq_map, List.map_cons]
  simp only [String.toList_append, toList_intercalate_comma, List.flatMap_map, moreMembers, moreParts,
    memberText]
  simp

end Layout

section Starts

variable {j : Json}

/-- What the first character of the text of a value is: not blank, not the end of an array, and the start
    of an array or an object only for these. -/
structure Opens (j : Json) (c : Char) : Prop where
  isSpace_eq : isSpace c = false
  ne_close : c ≠ ']'
  nesting_pos_iff : 0 < j.nesting ↔ c = '[' ∨ c = '\x7b'

private theorem opens_of_flat (hflat : j.nesting = 0) {c : Char} (hspace : isSpace c = false)
    (hne : c ≠ ']' ∧ c ≠ '[' ∧ c ≠ '\x7b') : Opens j c :=
  ⟨hspace, hne.1, iff_of_false (by omega) (not_or.mpr hne.2)⟩

private theorem opens_int_of_isDigit {c : Char} (hc : c.isDigit = true) (i : Int) : Opens (.int i) c := by
  have hne {d : Char} (hd : d.isDigit = false) : c ≠ d := by
    rintro rfl
    rw [hc] at hd
    cases hd
  refine opens_of_flat rfl ?_ ⟨hne rfl, hne rfl, hne rfl⟩
  simp only [isSpace, Bool.or_eq_false_iff, beq_eq_false_iff_ne]
  exact ⟨⟨⟨hne rfl, hne rfl⟩, hne rfl⟩, hne rfl⟩

private theorem exists_pretty_cons (hj : j.IsExact) (depth : Nat) :
    ∃ c cs, (pretty depth j).toList = c :: cs ∧ Opens j c := by
  cases hj with
  | null => exact ⟨'n', ['u', 'l', 'l'], by rw [pretty]; rfl, opens_of_flat rfl rfl (by decide)⟩
  | bool b =>
    cases b with
    | true => exact ⟨'t', ['r', 'u', 'e'], by rw [pretty]; rfl, opens_of_flat rfl rfl (by decide)⟩
    | false => exact ⟨'f', ['a', 'l', 's', 'e'], by rw [pretty]; rfl, opens_of_flat rfl rfl (by decide)⟩
  | @int i hi =>
    rw [pretty, Expr.toList_toString_int]
    split
    · exact ⟨'-', _, rfl, opens_of_flat rfl rfl (by decide)⟩
    · obtain ⟨c, ds, hdigits, hc⟩ := Expr.exists_toDigits_cons i.natAbs
      exact ⟨c, ds, hdigits, opens_int_of_isDigit hc i⟩
  | string s => exact ⟨'"', _, by rw [pretty, toList_quote], opens_of_flat rfl rfl (by decide)⟩
  | @array items hitems =>
    have hopen : Opens (.array items) '[' := ⟨rfl, by decide, by simp [nesting]⟩
    cases items with
    | nil => exact ⟨'[', [']'], by rw [pretty]; rfl, hopen⟩
    | cons item items => exact ⟨'[', _, toList_pretty_array depth item items, hopen⟩
  | @object members hsorted hmembers =>
    have hopen : Opens (.object members) '\x7b' := ⟨rfl, by decide, by simp [nesting]⟩
    cases members with
    | nil => exact ⟨'\x7b', ['\x7d'], by rw [pretty]; rfl, hopen⟩
    | cons m members => exact ⟨'\x7b', _, toList_pretty_object depth m members, hopen⟩

/-- A line break and indentation are skipped up to what is not blank. -/
theorem skipSpaces_lineAt (depth : Nat) {c : Char} (hc : isSpace c = false) (cs : List Char) :
    skipSpaces ((lineAt depth).toList ++ c :: cs) = c :: cs := by
  have hline : ∀ d ∈ (lineAt depth).toList, isSpace d = true := by
    simp [lineAt, isSpace]
  rw [skipSpaces, List.dropWhile_append_of_pos hline, List.dropWhile_cons_of_neg (by simp [hc])]

private theorem skipSpaces_pretty (hj : j.IsExact) (outer depth : Nat) (rest : List Char) :
    skipSpaces ((lineAt outer).toList ++ ((pretty depth j).toList ++ rest)) =
      (pretty depth j).toList ++ rest := by
  obtain ⟨c, cs, htext, hc⟩ := exists_pretty_cons hj depth
  rw [htext, List.cons_append, skipSpaces_lineAt outer hc.isSpace_eq]

private theorem endsNumber_lineAt (depth : Nat) (rest : List Char) :
    EndsNumber ((lineAt depth).toList ++ rest) := by
  simp [EndsNumber, lineAt]

end Starts

section Reading

variable {item : Reader Json} {depth n : Nat}

/-- A reader that reads the text of a value back if it is no deeper than `n`, and else nothing. -/
def ReadsBack (item : Reader Json) (depth n : Nat) (j : Json) : Prop :=
  ∀ rest, EndsNumber rest →
    item ((pretty depth j).toList ++ rest) = if j.nesting ≤ n then some (j, rest) else none

section Parts

variable {α : Type} (text : α → List Char) (parts : List α)

private theorem endsNumber_moreParts (rest : List Char) (outer : Nat) :
    EndsNumber (moreParts depth text parts ++ (lineAt outer).toList ++ rest) := by
  cases parts with
  | nil => exact endsNumber_lineAt outer rest
  | cons part parts => simp [EndsNumber, moreParts]

/-- Each part takes a character at least, so that as many characters as follow are enough fuel. -/
theorem length_le_length_moreParts (depth : Nat) : parts.length ≤ (moreParts depth text parts).length := by
  induction parts with
  | nil => exact Nat.zero_le _
  | cons part parts ih =>
    simp only [moreParts, List.flatMap_cons, List.length_append, List.length_cons] at ih ⊢
    omega

end Parts

/-- The items that follow the first are read back one after another. -/
theorem itemsAfter_moreItems {items : List Json} (hexact : ∀ j ∈ items, j.IsExact)
    (hitems : ∀ j ∈ items, ReadsBack item depth n j) {fuel : Nat} (hfuel : items.length < fuel)
    (read : List Json) (outer : Nat) (rest : List Char) :
    itemsAfter item fuel read (moreItems depth items ++ (lineAt outer).toList ++ ']' :: rest) =
      if ∀ j ∈ items, j.nesting ≤ n then some (.array (read.reverse ++ items), rest) else none := by
  induction items generalizing fuel read with
  | nil =>
    cases fuel with
    | zero => exact absurd hfuel (Nat.not_lt_zero _)
    | succ fuel =>
      have hskip : skipSpaces ((lineAt outer).toList ++ ']' :: rest) = ']' :: rest :=
        skipSpaces_lineAt outer rfl rest
      simp [itemsAfter, moreItems, moreParts, hskip]
  | cons j items ih =>
    cases fuel with
    | zero => exact absurd hfuel (Nat.not_lt_zero _)
    | succ fuel =>
      obtain ⟨hj, hexact⟩ := List.forall_mem_cons.mp hexact
      obtain ⟨hread, hitems⟩ := List.forall_mem_cons.mp hitems
      let more := moreItems depth items ++ (lineAt outer).toList ++ ']' :: rest
      have htext : moreItems depth (j :: items) ++ (lineAt outer).toList ++ ']' :: rest =
          ',' :: ((lineAt depth).toList ++ ((pretty depth j).toList ++ more)) := by
        simp [moreItems, moreParts, more]
      have hcomma (cs : List Char) : skipSpaces (',' :: cs) = ',' :: cs := rfl
      rw [htext, itemsAfter, hcomma]
      simp only [skipSpaces_pretty hj, hread more (endsNumber_moreParts _ items _ outer),
        List.forall_mem_cons]
      by_cases hdeep : j.nesting ≤ n
      · have hmore := ih hexact hitems (Nat.lt_of_succ_lt_succ hfuel) (j :: read)
        simp only [hdeep, if_true, true_and]
        rw [hmore, List.reverse_cons, List.append_assoc, List.singleton_append]
      · simp [hdeep]

private theorem memberText_eq (depth : Nat) (m : String × Json) (rest : List Char) :
    memberText depth m ++ rest =
      '"' :: (m.1.toList.flatMap escapedChar ++
        '"' :: ':' :: ' ' :: ((pretty depth m.2).toList ++ rest)) := by
  simp [memberText, toList_quote]

private theorem skipSpaces_memberText (outer depth : Nat) (m : String × Json) (rest : List Char) :
    skipSpaces ((lineAt outer).toList ++ (memberText depth m ++ rest)) = memberText depth m ++ rest := by
  rw [memberText_eq, skipSpaces_lineAt outer rfl]

/-- The name and the value of a member are read back. -/
theorem member_memberText {m : String × Json} (hvalue : m.2.IsExact) (hread : ReadsBack item depth n m.2)
    {cs rest : List Char} (hcs : skipSpaces cs = memberText depth m ++ rest) (hrest : EndsNumber rest) :
    member item cs = if m.2.nesting ≤ n then some (m, rest) else none := by
  have hcolon (cs : List Char) : skipSpaces (':' :: cs) = ':' :: cs := rfl
  have hblank : skipSpaces (' ' :: ((pretty depth m.2).toList ++ rest)) =
      (pretty depth m.2).toList ++ rest := by
    obtain ⟨c, text, htext, hc⟩ := exists_pretty_cons hvalue depth
    rw [htext, List.cons_append, skipSpaces, List.dropWhile_cons_of_pos rfl,
      List.dropWhile_cons_of_neg (by simp [hc.isSpace_eq])]
  rw [memberText_eq] at hcs
  unfold member
  simp only [hcs, textAfter_toList, hcolon, hblank, hread rest hrest, Option.bind_eq_bind, Option.bind_some]
  split_ifs <;> rfl

/-- The members that follow the first are read back one after another. -/
theorem membersAfter_moreMembers {members : List (String × Json)} (hexact : ∀ m ∈ members, m.2.IsExact)
    (hmembers : ∀ m ∈ members, ReadsBack item depth n m.2) {fuel : Nat} (hfuel : members.length < fuel)
    (read : List (String × Json)) (outer : Nat) (rest : List Char) :
    membersAfter item fuel read (moreMembers depth members ++ (lineAt outer).toList ++ '\x7d' :: rest) =
      if ∀ m ∈ members, m.2.nesting ≤ n then some (ofMembers (read.reverse ++ members), rest)
      else none := by
  induction members generalizing fuel read with
  | nil =>
    cases fuel with
    | zero => exact absurd hfuel (Nat.not_lt_zero _)
    | succ fuel =>
      have hskip : skipSpaces ((lineAt outer).toList ++ '\x7d' :: rest) = '\x7d' :: rest :=
        skipSpaces_lineAt outer rfl rest
      simp [membersAfter, moreMembers, moreParts, hskip]
  | cons m members ih =>
    cases fuel with
    | zero => exact absurd hfuel (Nat.not_lt_zero _)
    | succ fuel =>
      obtain ⟨hvalue, hexact⟩ := List.forall_mem_cons.mp hexact
      obtain ⟨hread, hmembers⟩ := List.forall_mem_cons.mp hmembers
      let more := moreMembers depth members ++ (lineAt outer).toList ++ '\x7d' :: rest
      have htext : moreMembers depth (m :: members) ++ (lineAt outer).toList ++ '\x7d' :: rest =
          ',' :: ((lineAt depth).toList ++ (memberText depth m ++ more)) := by
        simp [moreMembers, moreParts, more]
      have hcomma (cs : List Char) : skipSpaces (',' :: cs) = ',' :: cs := rfl
      have hmember := member_memberText hvalue hread (skipSpaces_memberText depth depth m more)
        (endsNumber_moreParts _ members _ outer)
      rw [htext, membersAfter, hcomma]
      simp only [hmember, List.forall_mem_cons]
      by_cases hdeep : m.2.nesting ≤ n
      · have hmore := ih hexact hmembers (Nat.lt_of_succ_lt_succ hfuel) (m :: read)
        simp only [hdeep, if_true, true_and]
        rw [hmore, List.reverse_cons, List.append_assoc, List.singleton_append]
      · simp [hdeep]

private theorem valueWith_openArray {cs : List Char} (hcs : ∀ rest, skipSpaces cs ≠ ']' :: rest) :
    valueWith item ('[' :: cs) = (item (skipSpaces cs)).bind fun read =>
      itemsAfter item (read.2.length + 1) [read.1] read.2 := by
  rw [valueWith]
  split
  · exact absurd ‹_› (hcs _)
  · rfl

private theorem valueWith_openObject {cs : List Char} (hcs : ∀ rest, skipSpaces cs ≠ '\x7d' :: rest) :
    valueWith item ('\x7b' :: cs) = (member item (skipSpaces cs)).bind fun read =>
      membersAfter item (read.2.length + 1) [read.1] read.2 := by
  rw [valueWith]
  split
  · exact absurd ‹_› (hcs _)
  · rfl

/-- An array is read back by a reader that reads its items back. -/
theorem valueWith_array {items : List Json} (hexact : ∀ j ∈ items, j.IsExact)
    (hitems : ∀ j ∈ items, ReadsBack item (depth + 1) n j) (rest : List Char) :
    valueWith item ((pretty depth (.array items)).toList ++ rest) =
      if ∀ j ∈ items, j.nesting ≤ n then some (.array items, rest) else none := by
  cases items with
  | nil => simp [pretty, valueWith, skipSpaces, isSpace]
  | cons j items =>
    obtain ⟨hj, hexact⟩ := List.forall_mem_cons.mp hexact
    obtain ⟨hread, hitems⟩ := List.forall_mem_cons.mp hitems
    let more := moreItems (depth + 1) items ++ (lineAt depth).toList ++ ']' :: rest
    have htext : (pretty depth (.array (j :: items))).toList ++ rest =
        '[' :: ((lineAt (depth + 1)).toList ++ ((pretty (depth + 1) j).toList ++ more)) := by
      rw [toList_pretty_array]
      simp [more]
    have hskip := skipSpaces_pretty hj (depth + 1) (depth + 1) more
    have hclose (cs : List Char) : (pretty (depth + 1) j).toList ++ more ≠ ']' :: cs := by
      obtain ⟨c, text, hpretty, hc⟩ := exists_pretty_cons hj (depth + 1)
      rw [hpretty]
      exact fun h => hc.ne_close (List.cons.inj h).1
    rw [htext, valueWith_openArray (by rwa [hskip]), hskip, hread more (endsNumber_moreParts _ items _ depth)]
    simp only [List.forall_mem_cons]
    by_cases hdeep : j.nesting ≤ n
    · have hfuel : items.length < more.length + 1 := by
        have hlength : items.length ≤ (moreItems (depth + 1) items).length :=
          length_le_length_moreParts _ items (depth + 1)
        simp only [more, List.length_append]
        omega
      have hmore := itemsAfter_moreItems hexact hitems hfuel [j] depth rest
      simp only [hdeep, if_true, true_and, Option.bind_some]
      exact hmore
    · simp [hdeep]

/-- An object is read back by a reader that reads the values of its members back. -/
theorem valueWith_object {members : List (String × Json)} (hsorted : Dict.Sorted members)
    (hexact : ∀ m ∈ members, m.2.IsExact)
    (hmembers : ∀ m ∈ members, ReadsBack item (depth + 1) n m.2) (rest : List Char) :
    valueWith item ((pretty depth (.object members)).toList ++ rest) =
      if ∀ m ∈ members, m.2.nesting ≤ n then some (.object members, rest) else none := by
  cases members with
  | nil => simp [pretty, valueWith, skipSpaces, isSpace]
  | cons m members =>
    obtain ⟨hvalue, hexact⟩ := List.forall_mem_cons.mp hexact
    obtain ⟨hread, hmembers⟩ := List.forall_mem_cons.mp hmembers
    let more := moreMembers (depth + 1) members ++ (lineAt depth).toList ++ '\x7d' :: rest
    have htext : (pretty depth (.object (m :: members))).toList ++ rest =
        '\x7b' :: ((lineAt (depth + 1)).toList ++ (memberText (depth + 1) m ++ more)) := by
      rw [toList_pretty_object]
      simp [more]
    have hskip := skipSpaces_memberText (depth + 1) (depth + 1) m more
    have hclose (cs : List Char) : memberText (depth + 1) m ++ more ≠ '\x7d' :: cs := by
      rw [memberText_eq]
      exact fun h => absurd (List.cons.inj h).1 (by decide)
    have hstart : skipSpaces (memberText (depth + 1) m ++ more) = memberText (depth + 1) m ++ more := by
      rw [memberText_eq]
      rfl
    have hmember := member_memberText hvalue hread hstart (endsNumber_moreParts _ members _ depth)
    rw [htext, valueWith_openObject (by rwa [hskip]), hskip, hmember]
    simp only [List.forall_mem_cons]
    by_cases hdeep : m.2.nesting ≤ n
    · have hfuel : members.length < more.length + 1 := by
        have hlength : members.length ≤ (moreMembers (depth + 1) members).length :=
          length_le_length_moreParts _ members (depth + 1)
        simp only [more, List.length_append]
        omega
      have hmore := membersAfter_moreMembers hexact hmembers hfuel [m] depth rest
      rw [List.reverse_singleton, List.singleton_append, ofMembers, Dict.ofList_of_sorted hsorted] at hmore
      simp only [hdeep, if_true, true_and, Option.bind_some]
      exact hmore
    · simp [hdeep]

/-- A value that is neither an array nor an object needs no reader for values inside it. -/
theorem valueWith_flat {j : Json} (hj : j.IsExact) (hflat : j.nesting = 0) (item : Reader Json)
    (depth : Nat) {rest : List Char} (hrest : EndsNumber rest) :
    valueWith item ((pretty depth j).toList ++ rest) = some (j, rest) := by
  cases hj with
  | null => rw [pretty]; rfl
  | bool b => cases b <;> (rw [pretty]; rfl)
  | int hi =>
    rw [pretty]
    exact valueWith_int hi hrest item
  | string s =>
    rw [pretty, toList_quote]
    simp [valueWith, textAfter_toList]
  | array hitems => exact absurd hflat (Nat.succ_ne_zero _)
  | object hsorted hmembers => exact absurd hflat (Nat.succ_ne_zero _)

end Reading

private theorem valueAt_zero (c : Char) (cs : List Char) :
    valueAt 0 (c :: cs) =
      if c = '[' ∨ c = '\x7b' then none else valueWith (fun _ => none) (c :: cs) := by
  split_ifs with hopen
  · rcases hopen with rfl | rfl <;> rfl
  · obtain ⟨hlist, hobject⟩ := not_or.mp hopen
    simp only [valueAt]
    split
    · exact absurd (List.cons.inj ‹_›).1 hlist
    · exact absurd (List.cons.inj ‹_›).1 hobject
    · rfl

/-- The text of a value is read back by the reader that allows as many open arrays and objects as there
    are in it, and by no reader that allows less. The induction is on what the reader allows: the items of
    an array and the members of an object are read with one less. -/
theorem readsBack_valueAt (n depth : Nat) {j : Json} (hj : j.IsExact) : ReadsBack (valueAt n) depth n j := by
  induction n generalizing depth j with
  | zero =>
    intro rest hrest
    obtain ⟨c, cs, htext, hc⟩ := exists_pretty_cons hj depth
    rw [htext, List.cons_append, valueAt_zero, ← List.cons_append, ← htext]
    by_cases hflat : j.nesting = 0
    · have hplain : ¬ (c = '[' ∨ c = '\x7b') := by
        rw [← hc.nesting_pos_iff]
        omega
      rw [if_neg hplain, valueWith_flat hj hflat _ depth hrest, if_pos (Nat.le_of_eq hflat)]
    · rw [if_pos (hc.nesting_pos_iff.mp (Nat.pos_of_ne_zero hflat)), if_neg (by omega)]
  | succ n ih =>
    intro rest hrest
    rw [valueAt]
    cases hj with
    | array hitems =>
      simp only [nesting_array_le_iff]
      exact valueWith_array hitems (fun item hitem => ih _ (hitems item hitem)) rest
    | object hsorted hmembers =>
      simp only [nesting_object_le_iff]
      exact valueWith_object hsorted hmembers (fun m hm => ih _ (hmembers m hm)) rest
    | null => exact valueWith_flat .null rfl _ depth hrest
    | bool b => exact valueWith_flat (.bool b) rfl _ depth hrest
    | int hi => exact valueWith_flat (.int hi) rfl _ depth hrest
    | string s => exact valueWith_flat (.string s) rfl _ depth hrest

/-- The whole text of a value is read back if at most 127 arrays and objects are open in it at once, and
    else not read at all. -/
theorem parse?_pretty {j : Json} (hj : j.IsExact) :
    parse? (pretty 0 j) = if j.nesting ≤ 127 then some j else none := by
  obtain ⟨c, cs, htext, hc⟩ := exists_pretty_cons hj 0
  have hskip : skipSpaces (pretty 0 j).toList = (pretty 0 j).toList := by
    rw [htext, skipSpaces, List.dropWhile_cons_of_neg (by simp [hc.isSpace_eq])]
  have hread := readsBack_valueAt 127 0 hj [] endsNumber_nil
  rw [List.append_nil] at hread
  rw [parse?, hskip, hread]
  split_ifs <;> rfl

end VulnProbe.Json
