import VulnProbe.Regex.CharSet
import VulnProbe.Regex.PropertyTables
import VulnProbe.Text.Basic
import VulnProbe.Text.Table

namespace VulnProbe.Regex

open VulnProbe.Text

/-- The characters that differ only in case from the members of each run, told by shifts. -/
def foldTable : RunMap := .ofTable
  ["CnjbCmaacCmYXiagbCmaacCmXcagbCmgjbClaacClYUwagbClaacClUqagbClCgacCFeCHqkebCmaacCmYOaaqbCmbgbCm",
    "aabWNuaebClaacClYLoaqbClbgbClaabJiaabcaabbaabcaabbaabcaabbaabcaabbaabcaabbaabcaabbaabcaabbaabc",
    "aabbaabcaabbaabcaabbaabcaabbaabcaabbaabcaabbaabcaabbaabcaabbaabcaabbaabcaabbaabcaabbaabcaabbaa",
    "bcaabbaabcaabbaabcaabbaabcaabbaabcaabbcabcaabbaabcaabbaabcaabbbabcaabbaabcaabbaabcaabbaabcaabb",
    "aabcaabbaabcaabbaabcaabbaabcaabbbabcaabbaabcaabbaabcaabbaabcaabbaabcaabbaabcaabbaabcaabbaabcaa",
    "bbaabcaabbaabcaabbaabcaabbaabcaabbaabcaabbaabcaabbaabcaabbaabcaabbaabcaabbaabcaabbaabcaabbaabc",
    "aabbaabcaabbaabcaabbaabcaabbaabJhaabcaabbaabcaabbaabcaabbaacXbUpaabPaaabQeaabcaabbaabcaabbaabP",
    "waabcaabbabbPuaabcaabbbabGcaabPoaabPqaabcaabbaabPuaabPyaabHmaabQgaabQcaabcaabbaabMoaabEVXyaabQ",
    "gaabQkaabKaaabQmaabcaabbaabcaabbaabcaabbaabQuaabcaabbaabQucabcaabbaabQuaabcaabbabbQsaabcaabbaa",
    "bcaabbaabQwaabcaabbcabcaabbbabEieacceaacbcaacdbaacceaacbcaacdbaacceaacbcaacdbaabcaabbaabcaabba",
    "abcaabbaabcaabbaabcaabbaabcaabbaabcaabbaabcaabbaabGbaabcaabbaabcaabbaabcaabbaabcaabbaabcaabbaa",
    "bcaabbaabcaabbaabcaabbaabcaabbbacceaacbcaacdbaabcaabbaabHlaabEhaabcaabbaabcaabbaabcaabbaabcaab",
    "baabcaabbaabcaabbaabcaabbaabcaabbaabcaabbaabcaabbaabcaabbaabcaabbaabcaabbaabcaabbaabcaabbaabca",
    "abbaabcaabbaabcaabbaabcaabbaabcaabbaabJzbabcaabbaabcaabbaabcaabbaabcaabbaabcaabbaabcaabbaabcaa",
    "bbaabcaabbaabcaabbgabBFYkaabcaabbaabMnaabBFYeabbBFZyaabcaabbaabOzaabFiaabFmaabcaabbaabcaabbaab",
    "caabbaabcaabbaabcaabbaabBFXmaabBFXgaabBFXkaabQdaabPvbbbPtbabPnbabPpaabEVFidabPtaabEVFababPxaab",
    "EVHeaabEVCiaabEVEmbabQbaabQfaabEVEmaabBFUkaabEVEgcabQfbabBFUwaabQjcabQlhabBFTecabQtbabEVEkaabQ",
    "tdabEVCmaabQtaabFhabbQraabFlfabQvkabEVAwaabEVAqGkadGmIyVOsBqabcaabbaabcaabbcabcaabbdcbKababIyg",
    "abCybcbCwbabEybbbEwaabVKoaabCmaacCmEuabbCmaacCmHkabbCmaadCmEkHcaadGlCmVIgaacCmGqaabCmaacCFdCma",
    "cbCmaacCmEeaacCmGebacCkCmabbCmaacCmDqabbCmaacCmWIsabbCmaabCxacbCvaabVJiaabClaacClCiabbClaacClE",
    "yabbClaadClByEqaadIxClVFuaacClEeaabClaacCHpClacbClaacClBsaacClDsaacCjcaacClbabbClaacClBeabbCla",
    "acClWGgabbClaabExabbEvaabqaacEtChaadEjBxCsdacDpBdaacEdBraabpaabcaabbaabcaabbaabcaabbaabcaabbaa",
    "bcaabbaabcaabbaabcaabbaabcaabbaabcaabbaabcaabbaabcaabbaabcaabbaacGpEdaacGdDraaboaabIxaadHbEpCr",
    "aacHjExbabcaabbaabnaabcaabbbcbJzapbGeabbCmaacCmSNcaabCmaacCmSNaaibCmaacCmSMiabbCmaacCmSMeaadCm",
    "SMeSMgagbCmaacCmSLsaebCmabbClaacClSKqaabClaacClSKoaibClaacClSJwabbClaacClSJsaadClSJsSJuagbClaa",
    "cClSJgaebClapbGdaabcaabbaaccSHmaacbSHkaabcaabbaabcaabbaabcaabbaabcaabbaabcaabbaabcaabbaabcaabb",
    "aabcaabbaabcaabbaabcaabbaabcaabbaabcaabbaabcaabbaabcaabbaabcaabbiabcaabbaabcaabbaabcaabbaabcaa",
    "bbaabcaabbaabcaabbaabcaabbaabcaabbaabcaabbaabcaabbaabcaabbaabcaabbaabcaabbaabcaabbaabcaabbaabc",
    "aabbaabcaabbaabcaabbaabcaabbaabcaabbaabcaabbaabcaabbaabcaabbaabcaabbaabcaabbaabcaabbaabcaabbaa",
    "bBeaabcaabbaabcaabbaabcaabbaabcaabbaabcaabbaabcaabbaabcaabbaabBdaabcaabbaabcaabbaabcaabbaabcaa",
    "bbaabcaabbaabcaabbaabcaabbaabcaabbaabcaabbaabcaabbaabcaabbaabcaabbaabcaabbaabcaabbaabcaabbaabc",
    "aabbaabcaabbaabcaabbaabcaabbaabcaabbaabcaabbaabcaabbaabcaabbaabcaabbaabcaabbaabcaabbaabcaabbaa",
    "bcaabbaabcaabbaabcaabbaabcaabbaabcaabbaabcaabbaabcaabbaabcaabbaabcaabbaabcaabbaabcaabbaabcaabb",
    "aabcaabbaabcaabbaabcaabbaabcaabbaabcaabbaabcaabbaabcaabbaabcaabbaabcaabbbBlbDskBlbDrEFhBlbVMub",
    "abVMufabVMucBqbIXkccbIXkZwDbbEKZoafbqcfbpDFuacSNbSKpaacSMzSKnaacSMhSJvaacSMdSJraadSMdSJrcaadSM",
    "fSJtbaacSLrSJfaacSHlSHjaacEAIuEAIwaabcaabbfBqbIXjccbIXjHdabEANwdabLHkqabEARwEjabcaabbaabcaabba",
    "abcaabbaabcaabbaabcaabbaabcaabbaabcaabbaabcaabbaabcaabbaabcaabbaabcaabbaabcaabbaabcaabbaabcaab",
    "baabcaabbaabcaabbaabcaabbaabcaabbaabcaabbaabcaabbaabcaabbaabcaabbaabcaabbaabcaabbaabcaabbaabca",
    "abbaabcaabbaabcaabbaabcaabbaabcaabbaabcaabbaabcaabbaabcaabbaabcaabbaabcaabbaabcaabbaabcaabbaab",
    "caabbaabcaabbaabcaabbaabcaabbaabcaabbaabcaabbaabcaabbaabcaabbaabcaabbaabcaabbaabcaabbaaccEoaac",
    "bEmaabcaabbaabcaabbaabcaabbaabcaabbaabcaabbaabcaabbaabcaabbaabcaabbaabcaabbaabcaabbaabcaabbaab",
    "caabbaabcaabbaabcaabbaabcaabbaabcaabbaabcaabbaabcaabbaabcaabbaabcaabbaabcaabbaabcaabbaabcaabba",
    "abcaabbaabcaabbaabcaabbfacEnElcabWNtbabcaabbaabcaabbaabcaabbaabcaabbaabcaabbaabcaabbaabcaabbaa",
    "bcaabbaabcaabbaabcaabbaabcaabbaabcaabbaabcaabbaabcaabbaabcaabbaabcaabbaabcaabbaabcaabbaabcaabb",
    "aabcaabbaabcaabbaabcaabbaabcaabbaabcaabbaabcaabbaabcaabbaabcaabbaabcaabbaabcaabbaabcaabbaabcaa",
    "bbaabcaabbaabcaabbaabcaabbaabcaabbaabcaabbaabcaabbaabcaabbaabcaabbaabcaabbaabcaabbaabcaabbaabc",
    "aabbaabcaabbaabcaabbaabcaabbaabcaabbaabcaabbahbqahbpafbqcfbpchbqahbpahbqahbpafbqcfbpdabqbabqba",
    "bqbabqbabpbabpbabpbabpahbqahbpabbFsadbGqabbHsabbJwabbIqabbJschbqahbpahbqahbpahbqahbpabbqbabseb",
    "bpabbFraabrbadVOrVIfVFteabsedbGpaabrdbbqbabVKnebbpabbHrebbqbabVJhbabocbbpabbIpaabngabsebbJvabb",
    "JraabrLlacWIrWGfdacYXhYUvaacYNzYLngabCeBbabCdrpbBgapbBfdabcaabbBFlzbCaazbBzCRuBvbDsaBvbDraabca",
    "abbaabBFUjaabLHjaabBFTdaabBFYjaabBFYdaabcaabbaabcaabbaabcaabbaabBFXfaabBFUvaabBFXlaabBFXjbabca",
    "abbbabcaabbhbbBFZxaabcaabbaabcaabbaabcaabbaabcaabbaabcaabbaabcaabbaabcaabbaabcaabbaabcaabbaabc",
    "aabbaabcaabbaabcaabbaabcaabbaabcaabbaabcaabbaabcaabbaabcaabbaabcaabbaabcaabbaabcaabbaabcaabbaa",
    "bcaabbaabcaabbaabcaabbaabcaabbaabcaabbaabcaabbaabcaabbaabcaabbaabcaabbaabcaabbaabcaabbaabcaabb",
    "aabcaabbaabcaabbaabcaabbaabcaabbaabcaabbaabcaabbaabcaabbaabcaabbaabcaabbaabcaabbaabcaabbaabcaa",
    "bbaabcaabbaabcaabbaabcaabbaabcaabbaabcaabbhabcaabbaabcaabbdabcaabbmBlbVMtbabVMtfabVMtBTWcabcaa",
    "bbaabcaabbaabcaabbaabcaabbaabcaabbaacEAItcaacEAIvbaabcaabbaabcaabbaabcaabbaabcaabbaabcaabbaabc",
    "aabbaabcaabbaabcaabbaabcaabbaabcaabbaabcaabbaabcaabbaabcaabbaabcaabbaabcaabbaabcaabbaabcaabbsa",
    "bcaabbaabcaabbaabcaabbaabcaabbaabcaabbaabcaabbaabcaabbaabcaabbaabcaabbaabcaabbaabcaabbaabcaabb",
    "aabcaabbaabcaabbFeabcaabbaabcaabbaabcaabbaabcaabbaabcaabbaabcaabbaabcaabbcabcaabbaabcaabbaabca",
    "abbaabcaabbaabcaabbaabcaabbaabcaabbaabcaabbaabcaabbaabcaabbaabcaabbaabcaabbaabcaabbaabcaabbaab",
    "caabbaabcaabbaabcaabbaabcaabbaabcaabbaabcaabbaabcaabbaabcaabbaabcaabbaabcaabbaabcaabbaabcaabba",
    "abcaabbaabcaabbaabcaabbaabcaabbaabcaabbjabcaabbaabcaabbaabEANvaabcaabbaabcaabbaabcaabbaabcaabb",
    "aabcaabbdabcaabbaabEVChcabcaabbaabcaabbaabDsbabcaabbaabcaabbaabcaabbaabcaabbaabcaabbaabcaabbaa",
    "bcaabbaabcaabbaabcaabbaabcaabbaabEVElaabEVFhaabEVEzaabEVEfaabEVElbabEVApaabEVClaabEVAvaabCTkaa",
    "bcaabbaabcaabbaabcaabbaabcaabbaabcaabbaabcaabbaabcaabbaabcaabbaabDraabEVEjaabEARvaabcaabbaabca",
    "abbaabEVHdaabcaabbaabcaabbaabcaabbaabcaabbaabcaabbaabcaabbaabcaabbaabcaabbaabEVXxyabcaabbBHcab",
    "CTjBcDbbEKZnBEAnabcaabbBOkzbCmgzbClBTtBnbDcaBnbDbDsBjbDceBjbDbEmkbDabobDabgbDabbbDabkbCzbobCzb",
    "gbCzbbbCzCOpBybEynBybExDpvbCmkvbClEFiBfbCmaBfbClBGIqBfbCmaBfbClBgybCccybCbBUGyBhbCqaBhbCp"]

/-- The word characters: letters, marks, decimal digits, connectors and joiners. -/
def wordTable : RunSet := .ofTable
  ["BwjhzeabzBvakaeafwbBebRpeloehabarEmbbcdbagabcbabtbDebFibGqbBlcagBoiBsbabbbbbaiBaedBdkfCveDxbhc",
    "jbscaqCgcDwoCbeacacBtsBbekfxbghCwbEycjbsbhcbcvbgbaddcicbcdiaebbeclkabaccbfebcvbgbbbbbbcabeebcc",
    "dahdbahplcbibcbvbgbbbecjbcbccapdcjjgbcbhcbcvbgbbbecicbcchcebbecjbaqbbfdcbddbbabbdbdcdleedcbdca",
    "gaojqmbcbwbpcibcbdhbbcbbcdcjqdbhbcbwbjbecibcbdhbfcbdcjbcmmbcbBybcbefdhecjkfbcbrdxbibacgdaefbab",
    "hgjcbnCffobjBnbbabebxbabwcebabgbjcdBgaxbgjlababaejbBjetbrbBjjaCfCvgCzcBlbafacBqbMubdcgbabdcBob",
    "dcBgbdcgbabdcobCebdcCoccBgpqDhcfdXvcqbzfCwdkhvjvltmmbcbbmDfdaebcjBhcbkgDkhBqfCrkBeblelkBncelBr",
    "ezgjBmBbeCkbBcckgjnaiBtcluCydjrimElmCdijdBwckfBqccqcbBmfUncfcBlcfchbabababBecCabgbadcbgddcfemf",
    "cbgpbBxbtaBcanaqmBzBgraeacjbadegabababdbkcdfeearBoBFhBzCRuIugimBlbafacCdhapxjgbgbgbgbgbgbgbgbB",
    "fBvaSbczobeceeDhcbccbDlbdfBqbDprBfBwpTsJTnCmBGUeCpBtcKidBbuBybjbEkBlicDycDduCceatBzmCrkjgxdabB",
    "wcBjmBcdCmokgBebCcjncjgwdCuyccpcekfcfcfjgbgbBqbngEsbbcjgQNrmweBwMNcObcEbBmgmeflbmbebabbbbbEdBh",
    "NysClcCbBolepqpdbycBgebFetjhzeabzlDkdfcfcfccBjlbzbsbbbocnBiEsCrCaFgaFaBcdBwpaBfBfnBdfBqfBdcBje",
    "hbeBqGbcjgBjeBjeBniBzmkbobgbbbkbobgbbdBzmLyjvkhyfbBpbiCrfcabBrbbdacwkwjBeCnsbbkvkzgzBmCdgbCmdb",
    "bfhbcbBccceaBgBcdBcBjhbBdzCbkvksnrEgCuCdBynBynBnijgBldebwJqBpbbdbqfByBikaiBgBfvBquBbwjCsBfpjCh",
    "hanyhjgCabjediBjcajCqedbmbaBjrbBkgdCkgbabdbobjhCgfjgdbhcbcvbgbbbebjcbcccagafgcgdeljbacabBlbjba",
    "cabdbhnbBdCwfjedBeCrbaijGkCbcixfBiCmdaljBmCehjgtBcBacoejggHdCgDxCvvhcachbbbBdbbcimjCshcBtchbbB",
    "bCkiaiCvdasCuDzhDkBgpjgibBsbipjyBdcvbnCvgbbbBrdabbbiijgfbbbBkbbbfhjgBrejJmwjqbBodenkDhaDbBJlDy",
    "EgrHnDXkDspBPfqvkFXqfWkKDdCfCOsVwhBebjgDabjgBdcelCcjdmjjufsQqBsdjHqClBgycyBsCweCehqCmbbblgjKXx",
    "BpBfDtEkMWrdbgbbbLepaBdccaodiPfDKuEcfmdihjdbGErjTyBtcwUwedfihcgBedFscRbDgbCsbbcacbcdblbabgbCmb",
    "dchbgbBbbdbebadgbNbcybybBebybBebybBebybBebybhcBxTsCceBxiaoaweboBQmBegfIfgbqcgbbbefCjBhaEiBsdnc",
    "jeaMjBerCfScBpIgBqHpBebvibIqgbdbbbobHolgBpCxejBTudbBabbbacabjbdbabagaeabababcbbbacabababababbb",
    "acdbgbdbdbabjbqfcbebqYezgzgzDYkjBNqCLFbBgGMncIObcLBkpXxDQwUvCFyHHyfMOnBOGXyJf"]

/-- The part of a run that a fold run covers, shifted by a code. -/
def shiftedRun (run : Nat × Nat) (first last code : Nat) : Option (Nat × Nat) :=
  let lo := max run.1 first
  let hi := min run.2 last
  if lo ≤ hi then some (shifted lo code, shifted hi code) else none

/-- A set with all characters that differ only in case from a member. -/
def foldCase (s : CharSet) : CharSet :=
  let found := foldTable.runs.toList.flatMap fun (first, last, codes) =>
    s.flatMap fun run => codes.filterMap (shiftedRun run first last)
  CharSet.ofRuns (s ++ found)

/-- The characters that differ only in case from one character. -/
def caseVariants (c : Char) : List Nat :=
  ((foldTable.find? c.toNat).getD []).map (shifted c.toNat)

/-- A set of bytes with both cases of its ASCII letters. -/
def foldAsciiCase (s : CharSet) : CharSet :=
  let small := s.filterMap fun run => shiftedRun run 65 90 64
  let capital := s.filterMap fun run => shiftedRun run 97 122 63
  CharSet.ofRuns (s ++ small ++ capital)

/-- The blank characters. -/
def blankSet : CharSet :=
  [(9, 13), (32, 32), (133, 133), (160, 160), (0x1680, 0x1680), (0x2000, 0x200A), (0x2028, 0x2029),
    (0x202F, 0x202F), (0x205F, 0x205F), (0x3000, 0x3000)]

/-- The ASCII characters of a class that is written between colons. -/
def posixSet (name : String) : CharSet :=
  if name == "alnum" then [(48, 57), (65, 90), (97, 122)]
  else if name == "alpha" then [(65, 90), (97, 122)]
  else if name == "ascii" then [(0, 127)]
  else if name == "blank" then [(9, 9), (32, 32)]
  else if name == "cntrl" then [(0, 31), (127, 127)]
  else if name == "digit" then [(48, 57)]
  else if name == "graph" then [(33, 126)]
  else if name == "lower" then [(97, 122)]
  else if name == "print" then [(32, 126)]
  else if name == "punct" then [(33, 47), (58, 64), (91, 96), (123, 126)]
  else if name == "space" then [(9, 13), (32, 32)]
  else if name == "upper" then [(65, 90)]
  else if name == "word" then [(48, 57), (65, 90), (95, 95), (97, 122)]
  else if name == "xdigit" then [(48, 57), (65, 70), (97, 102)]
  else []

/-- A name of a property without case, blanks, hyphens, underscores, other characters than ASCII and a
    leading "is". The name that would become "c" keeps its own meaning. -/
def looseName (name : String) : String :=
  let cs := name.toList
  let (stripped, cs) := match cs with
    | a :: b :: rest =>
      if (a == 'i' || a == 'I') && (b == 's' || b == 'S') then (true, rest) else (false, cs)
    | _ => (false, cs)
  let kept := (cs.filter fun c => c.toNat < 128 && c != ' ' && c != '_' && c != '-').map Char.toLower
  if stripped && kept == ['c'] then "isc" else String.ofList kept

/-- The members of the runs of a table with one of the given numbers. -/
def runsWith (table : List String) (wanted : Nat → Bool) : CharSet :=
  CharSet.ofRuns ((RunMap.ofTable table).runs.toList.filterMap fun (first, last, values) =>
    if values.any wanted then some (first, last) else none)

/-- All code points that have a category other than unassigned, which are the assigned ones. -/
def assignedSet : CharSet :=
  runsWith categoryTable fun _ => true

/-- The surrogates, which no text holds. -/
def surrogateSet : CharSet :=
  [(0xD800, 0xDFFF)]

/-- The categories, each by its place, that a name stands for. -/
def categoryPlaces? (name : String) : Option (Nat → Bool) :=
  let starting (letters : List Char) (place : Nat) : Bool :=
    match categoryNames[place]? with
    | some (short :: _) => (short.toList.head?.map (letters.contains ·)).getD false
    | _ => false
  if name == "l" || name == "letter" then some (starting ['l'])
  else if name == "m" || name == "mark" || name == "combiningmark" then some (starting ['m'])
  else if name == "n" || name == "number" then some (starting ['n'])
  else if name == "p" || name == "punctuation" || name == "punct" then some (starting ['p'])
  else if name == "s" || name == "symbol" then some (starting ['s'])
  else if name == "z" || name == "separator" then some (starting ['z'])
  else if name == "lc" || name == "casedletter" then
    some fun place => ((categoryNames[place]?.bind List.head?).map
      (["ll", "lt", "lu"].contains ·)).getD false
  else
    (categoryNames.findIdx? (·.contains name)).map fun found => (found == ·)

/-- The characters of a general category. The code points that are in no table are unassigned. -/
def categorySet? (name : String) : Option CharSet :=
  let unassigned := CharSet.diff maxScalar (CharSet.complement maxScalar assignedSet) surrogateSet
  if name == "any" then some [(0, maxScalar)]
  else if name == "ascii" then some [(0, 127)]
  else if name == "assigned" then some assignedSet
  else if name == "cn" || name == "unassigned" then some unassigned
  else if name == "c" || name == "other" then
    let others := runsWith categoryTable fun place =>
      (categoryNames[place]?.bind List.head?).any fun short => short.toList.head? == some 'c'
    some (CharSet.union others unassigned)
  else (categoryPlaces? name).map (runsWith categoryTable)

/-- The characters of a script. -/
def scriptSet? (name : String) : Option CharSet :=
  (scriptNames.findIdx? (·.contains name)).map fun found => runsWith scriptTable (found == ·)

/-- The characters with a yes-or-no property. -/
def flagSet? (name : String) : Option CharSet :=
  (flagTables.find? (·.1.contains name)).map fun (_, table) => (RunSet.ofTable table).runs.toList

/-- The decimal digits of all scripts. -/
def digitSet : CharSet :=
  (categorySet? "nd").getD []

/-- The word characters of all scripts. -/
def wordSet : CharSet :=
  wordTable.runs.toList

/-- The characters that a property without a value names. Three short names are those of categories. -/
def plainProperty? (name : String) : Option CharSet :=
  let name := looseName name
  let flag := if name == "cf" || name == "sc" || name == "lc" then none else flagSet? name
  (flag.orElse fun _ => categorySet? name).orElse fun _ => scriptSet? name

/-- The characters for which a property has a value. -/
def valuedProperty? (property value : String) : Option CharSet :=
  let property := looseName property
  let value := looseName value
  if property == "gc" || property == "generalcategory" then categorySet? value
  else if property == "sc" || property == "script" then scriptSet? value
  else none

end VulnProbe.Regex
