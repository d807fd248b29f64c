import VulnProbe.Config.Basic
import VulnProbe.Proofs.Expr.Spelling.Names
import VulnProbe.Proofs.Text.Stripped
import VulnProbe.Proofs.Url.Subpath
import VulnProbe.Run.Callback

namespace VulnProbe

namespace Url

variable {s : String} {u : Url} {c : Char} {cs front back name : List Char} {p : Char → Bool}

private theorem isAlpha_eq_false_of_isBlank (hc : Text.isBlank c = true) : c.isAlpha = false := by
  by_contra halpha
  have hbounds := Expr.toNat_of_isAlpha (Bool.not_eq_false _ ▸ halpha)
  simp only [Text.isBlank, Bool.or_eq_true, Bool.and_eq_true, decide_eq_true_eq, beq_iff_eq] at hc
  omega

private theorem isEdge_of_isDropped (hc : isDropped c = true) : isEdge c = true := by
  simp only [isDropped, Bool.or_eq_true, beq_iff_eq] at hc
  obtain (rfl | rfl) | rfl := hc <;> rfl

private theorem not_isDropped_of_not_isEdge (hc : isEdge c = false) : (!isDropped c) = true := by
  rw [Bool.not_eq_true']
  by_contra hdropped
  cases hc.symm.trans (isEdge_of_isDropped (Bool.not_eq_false _ ▸ hdropped))

/-- Blanks before a URL are not read. -/
theorem isEdge_of_isBlank (hparse : parse s = .ok u) (hs : s.toList = front ++ back)
    (hfront : ∀ c ∈ front, Text.isBlank c = true) : ∀ c ∈ front, isEdge c = true := by
  rw [← List.dropWhile_eq_nil_iff]
  by_contra hne
  obtain ⟨d, ds, hcons⟩ := List.exists_cons_of_ne_nil hne
  have hhead : d ∈ (front.dropWhile isEdge).head? := by rw [hcons]; rfl
  have hd := Text.eq_false_of_head?_dropWhile hhead
  have hcleaned : ∃ rest, cleaned s = d :: rest := by
    rw [cleaned, hs, List.dropWhile_append, if_neg (by simp [hcons]), hcons, List.cons_append,
      Text.dropEnd_cons_of_neg hd, List.filter_cons,
      if_pos (not_isDropped_of_not_isEdge hd)]
    exact ⟨_, rfl⟩
  obtain ⟨rest, hrest⟩ := hcleaned
  obtain ⟨after, hscheme⟩ := exists_splitScheme hparse
  have hblank := hfront d ((List.dropWhile_sublist isEdge).subset (hcons ▸ List.mem_cons_self))
  rw [hrest, splitScheme?, isAlpha_eq_false_of_isBlank hblank] at hscheme
  cases hscheme

/-- The end of a text without its blanks is where a URL is read to. -/
def EndsAlike (s : String) : Prop :=
  Text.dropEnd Text.isBlank s.toList = Text.dropEnd isEdge s.toList

/-- What is read of a text before the slashes that close it. -/
def unclosed (s : String) : List Char :=
  ((Text.stripped s).dropWhile isEdge).filter fun c => !isDropped c

/-- A URL is not made of blanks. -/
theorem trimChars_ne_nil (hparse : parse s = .ok u) : Text.trimChars s.toList ≠ [] := by
  intro hnil
  obtain ⟨front, back, hs, hfront, hback⟩ := Text.exists_blanks_of_trim s
  rw [Text.trim, String.toList_ofList, hnil, List.nil_append, ← List.append_nil (front ++ back)] at hs
  have hedges := isEdge_of_isBlank hparse hs (List.forall_mem_append.mpr ⟨hfront, hback⟩)
  refine dropWhile_ne_nil_of_cleaned (cleaned_ne_nil hparse) ?_
  rw [hs, List.append_nil, List.dropWhile_eq_nil_iff.mpr hedges]

private theorem exists_cleaned_eq (hparse : parse s = .ok u) (hend : EndsAlike s) :
    ∃ count, cleaned s = unclosed s ++ List.replicate count '/' := by
  obtain ⟨front, back, hs, hfront, hback⟩ := Text.exists_blanks_of_trim s
  obtain ⟨count, hcount⟩ := Text.exists_trimChars_eq_stripped s
  rw [Text.trim, String.toList_ofList] at hs
  have hlast : ∀ c ∈ (front ++ Text.trimChars s.toList).getLast?, Text.isBlank c = false := by
    intro c hc
    rw [List.getLast?_append, Option.or_of_isSome (by simp [trimChars_ne_nil hparse])] at hc
    exact Text.eq_false_of_getLast?_dropEnd hc
  have hread : Text.dropEnd isEdge s.toList = front ++ Text.trimChars s.toList := by
    rw [← hend]
    conv_lhs => rw [hs, ← List.append_assoc]
    exact Text.dropEnd_append_of_pos hlast hback
  have hslashes : (List.replicate count '/').dropWhile isEdge = List.replicate count '/' := by
    cases count <;> rfl
  refine ⟨count, ?_⟩
  rw [cleaned, Text.dropEnd_dropWhile, hread, hcount,
    List.dropWhile_append_of_pos (isEdge_of_isBlank hparse hs hfront), List.dropWhile_append, hslashes,
    unclosed]
  split
  · rename_i hempty
    rw [List.isEmpty_iff.mp hempty]
    simp [isDropped]
  · simp [isDropped]

/-- A digit or a small letter. -/
def isTokenChar (c : Char) : Bool :=
  c.isDigit || c.isLower

/-- A character that stands for itself in the path of a URL. -/
structure IsPathChar (c : Char) : Prop where
  toLower_eq : c.toLower = c
  unmarked : c ≠ '?' ∧ c ≠ '#'
  slash_free : isSlash true c = false
  unescaped : Escape.inPath c = false
  inside : isEdge c = false

private theorem isPathChar_of_isTokenChar (hc : isTokenChar c = true) : IsPathChar c := by
  have hsmall : c.toNat < 128 := by
    obtain hdigit | hlower := Bool.or_eq_true_iff.mp hc
    · have hbounds := Expr.toNat_of_isDigit hdigit
      omega
    · have hbounds := Expr.toNat_of_isAlpha (Bool.or_eq_true_iff.mpr (.inr hlower))
      omega
  have hascii : ∀ n < 128, isTokenChar (Char.ofNat n) = true →
      (Char.ofNat n).toLower = Char.ofNat n ∧ (Char.ofNat n ≠ '?' ∧ Char.ofNat n ≠ '#') ∧
        isSlash true (Char.ofNat n) = false ∧ Escape.inPath (Char.ofNat n) = false ∧
        isEdge (Char.ofNat n) = false := by
    decide +kernel
  have hchar : Char.ofNat c.toNat = c := Char.ofNat_toNat c
  obtain ⟨hlower, hmarks, hslash, hescape, hedge⟩ := hascii c.toNat hsmall (by rwa [hchar])
  rw [← hchar]
  exact ⟨hlower, hmarks, hslash, hescape, hedge⟩

private theorem isPlainSegment_of_forall (hname : ∀ c ∈ name, isTokenChar c = true) :
    IsPlainSegment name := by
  have hlower : name.map Char.toLower = name := by
    conv_rhs => rw [← List.map_id name]
    exact List.map_congr_left fun c hc => (isPathChar_of_isTokenChar (hname c hc)).toLower_eq
  have hne : ∀ mark : String, mark.toList.all isTokenChar = false → String.ofList name ≠ mark := by
    rintro mark hplain rfl
    rw [String.toList_ofList, List.all_eq_true.mpr hname] at hplain
    cases hplain
  have hnot : ∀ marks : List String, (∀ mark ∈ marks, mark.toList.all isTokenChar = false) →
      decide (String.ofList (name.map Char.toLower) ∈ marks) = false := by
    intro marks hmarks
    rw [decide_eq_false_iff_not, hlower]
    exact fun hmem => hne _ (hmarks _ hmem) rfl
  exact ⟨hnot _ (by decide), hnot _ (by decide)⟩

private theorem isPathName_of_forall (hname : ∀ c ∈ name, isTokenChar c = true) : IsPathName name where
  unmarked c hc := (isPathChar_of_isTokenChar (hname c hc)).unmarked
  slash_free c hc := (isPathChar_of_isTokenChar (hname c hc)).slash_free
  plain := isPlainSegment_of_forall hname
  escape_eq := by
    have hinPath : ∀ c ∈ name, Escape.inPath c = false := fun c hc =>
      (isPathChar_of_isTokenChar (hname c hc)).unescaped
    rw [Escape.escape, String.toList_ofList]
    clear hname
    induction name with
    | nil => rfl
    | cons c name ih =>
      obtain ⟨hc, hname⟩ := List.forall_mem_cons.mp hinPath
      rw [List.flatMap_cons, ih hname, hc]
      rfl

private theorem cleaned_urlUnder (base : String) {token : String}
    (htoken : ∀ c ∈ token.toList, isTokenChar c = true) :
    cleaned (Callbacks.urlUnder base token) = unclosed base ++ '/' :: token.toList := by
  have hedge : ∀ c ∈ '/' :: token.toList, isEdge c = false := by
    refine List.forall_mem_cons.mpr ⟨rfl, fun c hc => ?_⟩
    exact (isPathChar_of_isTokenChar (htoken c hc)).inside
  have htext : (Callbacks.urlUnder base token).toList = Text.stripped base ++ '/' :: token.toList := by
    rw [Callbacks.urlUnder, String.toList_append, String.toList_append, String.toList_ofList,
      List.append_assoc]
    rfl
  have hfront : (Text.stripped base ++ '/' :: token.toList).dropWhile isEdge =
      (Text.stripped base).dropWhile isEdge ++ '/' :: token.toList := by
    rw [List.dropWhile_append]
    split
    · rename_i hempty
      rw [List.isEmpty_iff.mp hempty]
      rfl
    · rfl
  rw [cleaned, htext, hfront, Text.dropEnd_eq_self, List.filter_append, ← unclosed]
  · rw [List.filter_eq_self.mpr fun c hc => not_isDropped_of_not_isEdge (hedge c hc)]
  · intro c hc
    rw [List.getLast?_append, Option.or_of_isSome (by simp)] at hc
    exact hedge c (List.mem_of_getLast? hc)

/-- What a callback is told by: digits and small letters. -/
structure IsToken (token : String) : Prop where
  length_eq : token.toList.length = Callbacks.tokenLength
  plain : ∀ c ∈ token.toList, isTokenChar c = true

private theorem isToken_token (draws : Expr.Draws) : IsToken (Callbacks.token draws) := by
  have hchar : ∀ n < 36, isTokenChar (Callbacks.tokenChar n) = true := by decide +kernel
  refine ⟨by simp [Callbacks.token], fun c hc => ?_⟩
  rw [Callbacks.token, String.toList_ofList] at hc
  obtain ⟨i, -, rfl⟩ := List.mem_map.mp hc
  have hmod := hchar _ (Nat.mod_lt (draws.child i).value (by decide))
  rwa [Callbacks.tokenChar, Nat.mod_mod] at hmod

/-- The path of what stands under a URL, with nothing behind the slash, does not end with two of them. -/
def ClosesOnce (base : String) : Prop :=
  ∀ v, parse (Callbacks.urlUnder base "") = .ok v → ¬ ['/', '/'] <:+ v.path.toList

private theorem dropEnd_eq_self_iff {dir : List Char} :
    Text.dropEnd (· == '/') dir = dir ↔ ¬ ['/', '/'] <:+ dir ++ ['/'] := by
  constructor
  · rintro hself ⟨front, hfront⟩
    have hdir : dir = front ++ ['/'] :=
      (List.append_cancel_right (by rw [List.append_assoc]; exact hfront)).symm
    have hlast : '/' ∈ (Text.dropEnd (· == '/') dir).getLast? := by
      rw [hself, hdir, List.getLast?_concat]
      rfl
    cases Text.eq_false_of_getLast?_dropEnd hlast
  · intro hnot
    refine Text.dropEnd_eq_self fun c hc => beq_false_of_ne ?_
    rintro rfl
    obtain ⟨front, hfront⟩ := List.getLast?_eq_some_iff.mp hc
    exact hnot ⟨front, by rw [hfront, List.append_assoc]; rfl⟩

private theorem dropEnd_append_slashes (dir : List Char) (count : Nat) :
    Text.dropEnd (· == '/') (dir ++ List.replicate count '/') = Text.dropEnd (· == '/') dir := by
  rw [Text.dropEnd_append, if_pos]
  simp [Text.dropEnd]

/-- A path is longer with a token behind it, closing slashes or not. -/
theorem ne_dropEnd_append_token {token : String} (htoken : IsToken token) (path : List Char) :
    path ≠ Text.dropEnd (· == '/') path ++ '/' :: token.toList := by
  intro heq
  have hself : Text.dropEnd (· == '/') path = path := by
    refine Text.dropEnd_eq_self fun c hc => ?_
    have hne : token.toList ≠ [] := List.ne_nil_of_length_pos (by rw [htoken.length_eq]; decide)
    rw [heq, List.getLast?_append, Option.or_of_isSome (by simp), List.getLast?_cons_of_ne_nil hne] at hc
    have hslash := (isPathName_of_forall htoken.plain).slash_free c (List.mem_of_getLast? hc)
    exact (Bool.or_eq_false_iff.mp hslash).1
  have hlength := congrArg List.length heq
  rw [hself, List.length_append, List.length_cons] at hlength
  omega

/-- What is written under a URL is a URL with the same scheme, host and port. It has the path that the
    writing of it is meant to make exactly if the first URL has no query and no fragment, and its path does
    not leave off behind a slash. -/
theorem exists_parse_urlUnder (hparse : parse s = .ok u) (hspecial : SchemeKind.of u.scheme = .special)
    (hend : EndsAlike s) {token : String} (htoken : IsToken token) :
    ∃ v, parse (Callbacks.urlUnder s token) = .ok v ∧ SameAuthority u v ∧
      (v.path.toList = Text.dropEnd (· == '/') u.path.toList ++ '/' :: token.toList ↔
        (u.query = none ∧ u.fragment = none) ∧ ClosesOnce s) := by
  obtain ⟨count, hs⟩ := exists_cleaned_eq hparse hend
  by_cases hplain : u.query = none ∧ u.fragment = none
  · obtain ⟨dir, closing, hpath, hname⟩ := exists_directory_of_parse hparse hspecial hs hplain
    obtain ⟨v, hv, hsame, hvpath⟩ :=
      hname _ _ (isPathName_of_forall htoken.plain) (cleaned_urlUnder s htoken.plain)
    have hnone : ∀ c ∈ "".toList, isTokenChar c = true := fun c hc => absurd hc List.not_mem_nil
    obtain ⟨w, hw, -, hwpath⟩ := hname _ _ (isPathName_of_forall hnone) (cleaned_urlUnder s hnone)
    have hcloses : ClosesOnce s ↔ ¬ ['/', '/'] <:+ dir ++ ['/'] := by
      rw [ClosesOnce, hw]
      simp [hwpath]
    refine ⟨v, hv, hsame, ?_⟩
    rw [hvpath, hpath, dropEnd_append_slashes, hcloses, List.append_cancel_right_eq, eq_comm,
      dropEnd_eq_self_iff, and_iff_right hplain]
  · obtain ⟨v, hv, hsame, hvpath⟩ :=
      exists_same_path_of_parse hparse hspecial hs hplain (cleaned_urlUnder s htoken.plain)
    refine ⟨v, hv, hsame, iff_of_false ?_ fun h => hplain h.1⟩
    rw [hvpath]
    exact ne_dropEnd_append_token htoken _

end Url

namespace Config

variable {text base : String} {config : Config}

/-- The URL for callbacks of a configuration is one that requests can be sent to. -/
theorem exists_origin (hconfig : ofText text = .ok config) (hbase : config.callbackUrl? = some base) :
    ∃ origin, Url.parse base = .ok origin ∧ isHttp origin.scheme = true := by
  rw [ofText] at hconfig
  split at hconfig
  · cases hconfig
    cases hbase
  · split at hconfig
    · cases hconfig
    · rename_i found hdecode
      split at hconfig
      · cases hconfig
      · rename_i hissue
        cases hconfig
        rw [issue?, hbase] at hissue
        split at hissue
        · cases hissue
        · cases hparse : Url.parse base with
          | error issue =>
            simp only [hparse] at hissue
            cases hissue
          | ok origin =>
            simp only [hparse] at hissue
            split at hissue
            · rename_i hhttp
              exact ⟨origin, rfl, hhttp⟩
            · cases hissue

private theorem kind_of_isHttp {scheme : String} (hhttp : isHttp scheme = true) :
    Url.SchemeKind.of scheme = .special := by
  rw [isHttp, Bool.or_eq_true, decide_eq_true_eq, decide_eq_true_eq] at hhttp
  obtain rfl | rfl := hhttp <;> rfl

private theorem under_eq {origin : Url} (hparse : Url.parse base = .ok origin)
    (draws : Expr.Draws) (k : Nat) :
    Callbacks.under (some base) draws k =
      .ok (Callbacks.urlUnder base (Callbacks.token (draws.child k))) := by
  have hblank : Text.isBlankText base = false := by
    rw [Bool.eq_false_iff, Ne, Text.isBlankText, List.all_eq_true]
    intro hall
    refine Url.trimChars_ne_nil hparse ?_
    rw [Text.trimChars, List.dropWhile_eq_nil_iff.mpr hall]
    rfl
  rw [Callbacks.under, Option.filter_some, hblank]
  rfl

/-- What is handed out for the callback URL of a configuration, if that ends where the text ends without
    its blanks, is always a URL with the same scheme, host and port, with a token behind the last slash. It
    is under the path of the first URL exactly if that has no query and no fragment, and its path does not
    leave off behind a slash. -/
theorem callback_under_iff (hconfig : ofText text = .ok config) (hbase : config.callbackUrl? = some base)
    (hend : Url.EndsAlike base) :
    ∃ origin, Url.parse base = .ok origin ∧
      (∀ draws k, ∃ token, Url.IsToken token ∧
        Callbacks.under config.callbackUrl? draws k = .ok (Callbacks.urlUnder base token)) ∧
      ∀ token, Url.IsToken token → ∃ callback, Url.parse (Callbacks.urlUnder base token) = .ok callback ∧
        Url.SameAuthority origin callback ∧
        (callback.path.toList = Text.dropEnd (· == '/') origin.path.toList ++ '/' :: token.toList ↔
          (origin.query = none ∧ origin.fragment = none) ∧ Url.ClosesOnce base) := by
  obtain ⟨origin, hparse, hhttp⟩ := exists_origin hconfig hbase
  refine ⟨origin, hparse, fun draws k => ?_, fun token htoken => ?_⟩
  · exact ⟨_, Url.isToken_token (draws.child k), by rw [hbase, under_eq hparse]⟩
  · exact Url.exists_parse_urlUnder hparse (kind_of_isHttp hhttp) hend htoken

/-- A URL with slashes and blanks at its end. -/
theorem callback_under_sample :
    let text := "\x7b'reverse': \x7b'url': 'http://[::1]/cb// '\x7d\x7d"
    let base := "http://[::1]/cb// "
    let config : Config := ⟨some ⟨some base⟩, none, none⟩
    let token := "0123456789ab"
    ofText text = .ok config ∧ config.callbackUrl? = some base ∧ Url.EndsAlike base ∧
      Url.IsToken token ∧
      ∃ origin callback, Url.parse base = .ok origin ∧
        Url.parse (Callbacks.urlUnder base token) = .ok callback ∧ Url.SameAuthority origin callback ∧
        callback.path.toList = Text.dropEnd (· == '/') origin.path.toList ++ '/' :: token.toList := by
  intro text base config token
  have hconfig : ofText text = .ok config := by decide +kernel +zetaReduce
  have hend : Url.EndsAlike base := by
    rw [Url.EndsAlike]
    decide +kernel +zetaReduce
  have htoken : Url.IsToken token :=
    ⟨by decide +kernel +zetaReduce, List.all_eq_true.mp (by decide +kernel +zetaReduce)⟩
  obtain ⟨origin, hparse, -, hunder⟩ := callback_under_iff hconfig rfl hend
  obtain ⟨callback, hcallback, hsame, hpath⟩ := hunder token htoken
  refine ⟨hconfig, rfl, hend, htoken, origin, callback, hparse, hcallback, hsame, hpath.mpr ⟨?_, ?_⟩⟩
  · have hplain : (Url.parse base).map (fun u => (u.query, u.fragment)) = .ok (none, none) := by
      decide +kernel +zetaReduce
    rw [hparse] at hplain
    exact Prod.mk.inj (Except.ok.inj hplain)
  · intro v hv
    have hpath : (Url.parse (Callbacks.urlUnder base "")).map Url.path = .ok "/cb/" := by
      decide +kernel +zetaReduce
    rw [hv] at hpath
    rw [show v.path = "/cb/" from Except.ok.inj hpath]
    decide

/-- The token comes to the query of a URL that has one, a path that leaves off behind a slash keeps that
    slash, and a blank that a URL keeps at its end is lost. -/
theorem callback_not_under :
    let token := "0123456789ab"
    let pathOf (text : String) := (Url.parse text).map Url.path
    (pathOf "http://[::1]/?k=v" = .ok "/" ∧
      Callbacks.urlUnder "http://[::1]/?k=v" token = "http://[::1]/?k=v/0123456789ab" ∧
      pathOf "http://[::1]/?k=v/0123456789ab" = .ok "/") ∧
    (pathOf "http://[::1]//." = .ok "//" ∧
      Callbacks.urlUnder "http://[::1]//." token = "http://[::1]//./0123456789ab" ∧
      pathOf "http://[::1]//./0123456789ab" = .ok "//0123456789ab") ∧
    (pathOf "http://[::1]/a\u00a0" = .ok "/a%C2%A0" ∧
      Callbacks.urlUnder "http://[::1]/a\u00a0" token = "http://[::1]/a/0123456789ab" ∧
      pathOf "http://[::1]/a/0123456789ab" = .ok "/a/0123456789ab") :=
  ⟨⟨rfl, rfl, rfl⟩, ⟨rfl, rfl, rfl⟩, rfl, rfl, rfl⟩

end Config

end VulnProbe
