import Mathlib.Tactic.Common
import VulnProbe.Proofs.Url.DomainName
import VulnProbe.Url.Parser

namespace VulnProbe.Url

variable {scheme : String} {authority rest gap cs : List Char} {c : Char}

/-- The port that is written behind a host. -/
def readPort (scheme : String) : List Char → Except UrlIssue (Option Nat)
  | [] => .ok none
  | _ :: digits => (splitPort scheme digits).map Prod.fst

/-- What the authority of a URL of a special scheme is read as: credentials, host and port. -/
def readAuthority (scheme : String) (authority : List Char) :
    Except UrlIssue ((String × Option String) × Host × Option Nat) :=
  let (secret?, hostPort) := splitLastAt authority
  let (hostText, portText) := splitHost false hostPort
  if hostText.isEmpty then .error .emptyHost
  else do
    let host ← domainHost hostText
    let port ← readPort scheme portText
    pure (credentials (secret?.getD []), host, port)

private theorem snd_splitLastAt_subset (authority : List Char) : (splitLastAt authority).2 ⊆ authority := by
  rw [splitLastAt]
  split
  · exact List.Subset.refl _
  · intro c hc
    exact List.mem_reverse.mp ((List.takeWhile_sublist _).subset (List.mem_reverse.mp hc))

/-- The text of the host and that of the port make up what is split. -/
theorem splitHost_join (inBrackets : Bool) (cs : List Char) :
    (splitHost inBrackets cs).1 ++ (splitHost inBrackets cs).2 = cs := by
  induction cs generalizing inBrackets with
  | nil => rfl
  | cons c cs ih =>
    rw [splitHost]
    split
    · rfl
    · rw [List.cons_append, ih]

/-- No character of the text of a port ends an authority. -/
theorem not_ends_of_mem_portText (hauthority : ∀ c ∈ authority, endsAuthority true c = false) :
    ∀ c ∈ (splitHost false (splitLastAt authority).2).2, endsAuthority true c = false := by
  intro c hc
  refine hauthority c (snd_splitLastAt_subset authority ?_)
  rw [← splitHost_join false (splitLastAt authority).2]
  exact List.mem_append_right _ hc

private theorem portDigits_subset {n m : Nat} {left : List Char} (hdigits : portDigits n cs = .ok (m, left)) :
    left ⊆ cs := by
  fun_induction portDigits n cs with
  | case1 =>
    cases hdigits
    exact List.Subset.refl _
  | case2 => cases hdigits
  | case3 n c rest hc n' hsmall ih => exact List.Subset.trans (ih hdigits) (List.subset_cons_self _ _)
  | case4 =>
    cases hdigits
    exact List.Subset.refl _

private theorem portDigits_append (hrest : ∀ c ∈ rest.head?, c.isDigit = false) (n : Nat) (cs : List Char) :
    portDigits n (cs ++ rest) = (portDigits n cs).map fun (m, left) => (m, left ++ rest) := by
  fun_induction portDigits n cs with
  | case1 n =>
    cases rest with
    | nil => rfl
    | cons c rest => simp [portDigits, hrest c rfl, Except.map]
  | case2 n c cs hc n' hlarge => simp [portDigits, hc, n', hlarge, Except.map]
  | case3 n c cs hc n' hsmall ih =>
    rw [← ih]
    simp [portDigits, hc, n', hsmall]
  | case4 n c cs hc => simp [portDigits, hc, Except.map]

private theorem isDigit_of_endsAuthority (hc : endsAuthority true c = true) : c.isDigit = false := by
  simp only [endsAuthority, isSlash, Bool.or_eq_true, Bool.and_eq_true, beq_iff_eq, true_and] at hc
  obtain ((rfl | rfl) | rfl) | rfl := hc <;> decide

/-- A port is read up to the end of the authority, whatever stands behind it. -/
theorem splitPort_append {digits : List Char} (hdigits : ∀ c ∈ digits, endsAuthority true c = false)
    (hrest : ∀ c ∈ rest.head?, endsAuthority true c = true) :
    splitPort scheme (digits ++ rest) =
      (splitPort scheme digits).map fun (port, _) => (port, rest) := by
  rw [splitPort, splitPort, portDigits_append fun c hc => isDigit_of_endsAuthority (hrest c hc)]
  cases hread : portDigits 0 digits with
  | error issue => rfl
  | ok result =>
    obtain ⟨n, left⟩ := result
    cases left with
    | cons d left =>
      have hd := hdigits d (portDigits_subset hread List.mem_cons_self)
      simp [Except.map, bind, Except.bind, hd]
    | nil =>
      cases rest with
      | nil => simp [Except.map, bind, Except.bind, pure, Except.pure]
      | cons c rest =>
        simp [Except.map, bind, Except.bind, pure, Except.pure, hrest c rfl]

private theorem takeWhile_authority (hauthority : ∀ c ∈ authority, endsAuthority true c = false)
    (hrest : ∀ c ∈ rest.head?, endsAuthority true c = true) :
    (authority ++ rest).takeWhile (fun c => !(endsAuthority true c)) = authority := by
  rw [List.takeWhile_append_of_pos]
  · cases rest with
    | nil => simp
    | cons c rest => simp [hrest c rfl]
  · intro c hc
    simp [hauthority c hc]

/-- A URL is read from its authority and, apart from that, from what stands behind it. -/
theorem ofAuthority_append (hauthority : ∀ c ∈ authority, endsAuthority true c = false)
    (hrest : ∀ c ∈ rest.head?, endsAuthority true c = true) :
    ofAuthority scheme .special (authority ++ rest) =
      (readAuthority scheme authority).map fun (credentials, host, port) =>
        withTail scheme .special credentials (some host) port
          (pathAfterHost .special (splitTail rest).path) (splitTail rest) := by
  rw [ofAuthority, readAuthority]
  simp only [SchemeKind.isSpecial, takeWhile_authority hauthority hrest, List.drop_left]
  have hport := not_ends_of_mem_portText hauthority
  generalize splitLastAt authority = split at hport ⊢
  obtain ⟨secret?, hostPort⟩ := split
  have hjoin := splitHost_join false hostPort
  generalize splitHost false hostPort = split at hjoin hport ⊢
  obtain ⟨hostText, portText⟩ := split
  cases hostText with
  | nil =>
    -- without a host it is refused, whichever check comes first
    simp only [List.isEmpty_nil, BEq.rfl, Bool.true_and, if_true]
    split <;> rfl
  | cons h hs =>
    have hhostPort : hostPort.isEmpty = false := by
      rw [← hjoin]
      rfl
    simp only [hhostPort, List.isEmpty_cons, Bool.and_false, Bool.false_and, Bool.false_eq_true,
      if_false, BEq.rfl, if_true]
    cases domainHost (h :: hs) with
    | error issue => rfl
    | ok host =>
      cases portText with
      | nil => rfl
      | cons colon digits =>
        simp only [readPort, splitPort_append (fun c hc => hport c (List.mem_cons_of_mem _ hc)) hrest]
        cases splitPort scheme digits <;> rfl

/-- A control character or a space is no character above those. -/
theorem ne_of_isEdge {d : Char} (hc : isEdge c = true) (hd : isEdge d = false) : c ≠ d := by
  rintro rfl
  cases hc.symm.trans hd

/-- A control character or a space does not end the authority. -/
theorem endsAuthority_of_isEdge (hc : isEdge c = true) : endsAuthority true c = false :=
  forall_of_le (P := fun c => endsAuthority true c = false) (by decide) (of_decide_eq_true hc)

private theorem isDigit_of_isEdge (hc : isEdge c = true) : c.isDigit = false :=
  forall_of_le (P := fun c => c.isDigit = false) (by decide) (of_decide_eq_true hc)

private theorem splitLastAt_append (hgap : '@' ∉ gap) (cs : List Char) :
    splitLastAt (cs ++ gap) = ((splitLastAt cs).1, (splitLastAt cs).2 ++ gap) := by
  have hafter : ((cs ++ gap).reverse.takeWhile (· != '@')).reverse =
      (cs.reverse.takeWhile (· != '@')).reverse ++ gap := by
    rw [List.reverse_append, List.takeWhile_append_of_pos, List.reverse_append, List.reverse_reverse]
    intro c hc
    rw [bne_iff_ne]
    rintro rfl
    exact hgap (List.mem_reverse.mp hc)
  rw [splitLastAt, splitLastAt, hafter]
  generalize (cs.reverse.takeWhile (· != '@')).reverse = after
  by_cases hall : after.length = cs.length
  · simp [hall]
  · have hcount : cs.length + gap.length - (after.length + gap.length) - 1 =
        cs.length - after.length - 1 := by omega
    have htake : cs.length - after.length - 1 ≤ cs.length := by omega
    simp [hall, hcount, List.take_append_of_le_length htake]

private theorem splitHost_of_not_mem (hgap : ':' ∉ gap) (inBrackets : Bool) :
    splitHost inBrackets gap = (gap, []) := by
  induction gap generalizing inBrackets with
  | nil => rfl
  | cons c gap ih =>
    rw [List.mem_cons, not_or] at hgap
    have hc : (c == ':') = false := beq_false_of_ne (Ne.symm hgap.1)
    simp [splitHost, hc, ih hgap.2]

private theorem splitHost_append (hgap : ':' ∉ gap) (inBrackets : Bool) (cs : List Char) :
    splitHost inBrackets (cs ++ gap) =
      if (splitHost inBrackets cs).2.isEmpty then ((splitHost inBrackets cs).1 ++ gap, [])
      else ((splitHost inBrackets cs).1, (splitHost inBrackets cs).2 ++ gap) := by
  induction cs generalizing inBrackets with
  | nil => exact splitHost_of_not_mem hgap inBrackets
  | cons c cs ih =>
    rw [List.cons_append, splitHost, splitHost]
    split
    · rfl
    · rw [ih]
      generalize splitHost _ cs = inner
      obtain ⟨host, port⟩ := inner
      cases port <;> rfl

/-- No host ends with control characters or spaces. -/
theorem domainHost_append_ne_ok (hgap : ∀ c ∈ gap, isEdge c = true) (hne : gap ≠ []) (host : Host) :
    domainHost (cs ++ gap) ≠ .ok host := by
  intro hok
  rw [domainHost] at hok
  split at hok
  · -- an address in brackets would end with one
    have hbracket := ne_of_isEdge (d := ']') (hgap _ (List.getLast_mem hne)) rfl
    simp [bracketHost, List.getLast?_append, List.getLast?_eq_some_getLast hne, hbracket] at hok
  · obtain ⟨c, hc⟩ := List.exists_mem_of_ne_nil gap hne
    have hnone := DomainName.toAscii?_of_mem (of_decide_eq_true (hgap c hc)) (List.mem_append_right cs hc)
    rw [hnone] at hok
    cases hok

private theorem readPort_append_ne_ok {colon : Char} {digits : List Char}
    (hport : ∀ c ∈ colon :: digits, endsAuthority true c = false)
    (hgap : ∀ c ∈ gap, isEdge c = true) (hne : gap ≠ []) (port : Option Nat) :
    readPort scheme (colon :: digits ++ gap) ≠ .ok port := by
  obtain ⟨d, gap, rfl⟩ := List.exists_cons_of_ne_nil hne
  have hd := hgap d List.mem_cons_self
  rw [List.cons_append, readPort, splitPort, portDigits_append]
  · cases hread : portDigits 0 digits with
    | error issue => rintro ⟨⟩
    | ok result =>
      obtain ⟨n, left⟩ := result
      cases left with
      | nil => simp [Except.map, bind, Except.bind, endsAuthority_of_isEdge hd]
      | cons e left =>
        have he := hport e (List.mem_cons_of_mem _ (portDigits_subset hread List.mem_cons_self))
        simp [Except.map, bind, Except.bind, he]
  · rintro c ⟨⟩
    exact isDigit_of_isEdge hd

/-- No authority ends with control characters or spaces. -/
theorem readAuthority_append_ne_ok (hauthority : ∀ c ∈ authority, endsAuthority true c = false)
    (hgap : ∀ c ∈ gap, isEdge c = true) (hne : gap ≠ []) (parts) :
    readAuthority scheme (authority ++ gap) ≠ .ok parts := by
  have hat : '@' ∉ gap := fun h => ne_of_isEdge (hgap _ h) rfl rfl
  have hcolon : ':' ∉ gap := fun h => ne_of_isEdge (hgap _ h) rfl rfl
  rw [readAuthority, splitLastAt_append hat]
  simp only [splitHost_append hcolon]
  have hport := not_ends_of_mem_portText hauthority
  generalize splitLastAt authority = split at hport ⊢
  obtain ⟨secret?, hostPort⟩ := split
  generalize splitHost false hostPort = split at hport ⊢
  obtain ⟨hostText, portText⟩ := split
  cases portText with
  | nil =>
    have hhostText : (hostText ++ gap).isEmpty = false := by simp [hne]
    simp only [List.isEmpty_nil, if_true, hhostText, Bool.false_eq_true, if_false]
    cases hdomain : domainHost (hostText ++ gap) with
    | error issue => rintro ⟨⟩
    | ok host => exact absurd hdomain (domainHost_append_ne_ok hgap hne host)
  | cons colon digits =>
    simp only [List.isEmpty_cons, Bool.false_eq_true, if_false]
    split
    · rintro ⟨⟩
    · cases domainHost hostText with
      | error issue => rintro ⟨⟩
      | ok host =>
        cases hread : readPort scheme (colon :: digits ++ gap) with
        | error issue => rintro ⟨⟩
        | ok port => exact absurd hread (readPort_append_ne_ok hport hgap hne port)

end VulnProbe.Url
