import VulnProbe.Config.Target
import VulnProbe.Proofs.Run.Verdict
import VulnProbe.Proofs.Url.Continuation

namespace VulnProbe

/-- A target that is accepted is read as a URL of HTTP. -/
theorem Target.exists_parse_of_normalize {raw target : String} (htarget : normalize raw = .ok target) :
    ∃ origin, Url.parse target = .ok origin ∧ Url.SchemeKind.of origin.scheme = .special := by
  rw [normalize] at htarget
  split at htarget
  · cases htarget
  · rename_i origin hparse
    split at htarget
    · rename_i hhttp
      cases htarget
      refine ⟨origin, hparse, ?_⟩
      simp only [Config.isHttp, Bool.or_eq_true, decide_eq_true_eq] at hhttp
      obtain h | h := hhttp <;> rw [h] <;> rfl
    · cases htarget

/-- A text that is empty or starts with a path, a query or a fragment. -/
def Url.IsContinuation (s : String) : Prop :=
  ∀ c ∈ s.toList.head?, c = '/' ∨ c = '?' ∨ c = '#'

/-- A text is another one, or goes on with a path, a query or a fragment. -/
def Url.Extends (target url : String) : Prop :=
  url = target ∨ ∃ c rest, url = target ++ String.ofList (c :: rest) ∧ (c = '/' ∨ c = '?' ∨ c = '#')

private theorem Url.extends_append_iff {target path : String} :
    Extends target (target ++ path) ↔ IsContinuation path := by
  constructor
  · rintro (hsame | ⟨c, rest, hmore, hc⟩) d hd
    · rw [String.append_eq_left_iff.mp hsame] at hd
      cases hd
    · rw [(String.append_right_inj _).mp hmore, String.toList_ofList] at hd
      cases hd
      exact hc
  · intro hpath
    cases htext : path.toList with
    | nil => exact .inl (by rw [String.toList_eq_nil_iff.mp htext, String.append_empty])
    | cons c rest =>
      exact .inr ⟨c, rest, by rw [← htext, String.ofList_toList], hpath c (by rw [htext]; rfl)⟩

namespace Run

variable {run : Run} {context : Context} {draws : Expr.Draws} {rules : List Rule} {i : Nat}
  {request : Request}

/-- Each request that a run hands to the transport is that of a rule, as the history tells it. -/
theorem exists_rule_of_sent
    (hsent : (run.execute context draws rules).2.sent[run.sent.length + i]? = some request) :
    ∃ rule, rules[i]? = some rule ∧ request = run.requestAt context rules i rule := by
  obtain ⟨n, -, hhistory⟩ := exists_history run context draws rules
  rw [hhistory, List.getElem?_append_right (Nat.le_add_right _ _), Nat.add_sub_cancel_left, requests,
    List.getElem?_mapIdx, List.getElem?_take, Option.map_eq_some_iff] at hsent
  obtain ⟨rule, hrule, rfl⟩ := hsent
  split at hrule
  · exact ⟨rule, hrule, rfl⟩
  · cases hrule

/-- The URL of each request is the target followed by the path of its rule, as it is once the placeholders
    are filled. If the path starts behind the authority, or the target has gone on there before, the URL
    is read with the scheme, the host and the port of the target, or is not read at all where the target
    ends with control characters or spaces. -/
theorem url_of_sent {raw : String} {context : Context}
    (htarget : Target.normalize raw = .ok context.target) (run : Run) (draws : Expr.Draws)
    (rules : List Rule) :
    ∃ origin, Url.parse context.target = .ok origin ∧ ∀ i request,
      (run.execute context draws rules).2.sent[run.sent.length + i]? = some request →
      ∃ rule path, rules[i]? = some rule ∧
        path = fillPlaceholders (run.paramsBefore context rules i) (Text.trim rule.path) ∧
        request.url = context.target ++ path ∧
        (Url.Extends context.target request.url ↔ Url.IsContinuation path) ∧
        ((∀ c ∈ path.toList.head?, Url.endsAuthority true c = true) ∨ Url.GoesOn context.target →
          (∀ u, Url.parse request.url = .ok u → Url.SameAuthority origin u) ∧
          ((∀ c ∈ context.target.toList.getLast?, Url.isEdge c = false) →
            ∃ u, Url.parse request.url = .ok u)) := by
  obtain ⟨origin, hparse, hspecial⟩ := Target.exists_parse_of_normalize htarget
  refine ⟨origin, hparse, fun i request hsent => ?_⟩
  obtain ⟨rule, hrule, rfl⟩ := exists_rule_of_sent hsent
  exact ⟨rule, _, hrule, rfl, rfl, Url.extends_append_iff, Url.parse_append hparse hspecial⟩

/-- A path with outer blanks and a placeholder, filled with a text that names another host. Behind the slash
    it stays part of the path. -/
theorem url_of_sent_sample :
    let context : Context :=
      { target := "http://[::1]", registry := .initial, transport := fun _ _ => .error .noMoreAnswers }
    let rule : Rule :=
      { method := "GET", path := " /\x7b\x7bn\x7d\x7d ", body := "", headers := [], followRedirects := true
        search := none, expression := "true" }
    let run := start [("n", .string "@[::2]")]
    Target.normalize "http://[::1]/" = .ok context.target ∧
      ∃ request u, (run.execute context (.ofSeed 0) [rule]).2.sent[0]? = some request ∧
        request.url = "http://[::1]/@[::2]" ∧ Url.Extends context.target request.url ∧
        Url.parse request.url = .ok u ∧ u.scheme = "http" ∧
        u.host = some (.ipv6 [0, 0, 0, 0, 0, 0, 0, 1]) ∧ u.port = none := by
  intro context rule run
  have htarget : Target.normalize "http://[::1]/" = .ok context.target := by decide
  have hsent : (run.execute context (.ofSeed 0) [rule]).2.sent[0]? =
      some (rule.filledRequest run.params context.target) := by decide
  obtain ⟨origin, horigin, hurl⟩ := url_of_sent htarget run (.ofSeed 0) [rule]
  obtain ⟨rule', path, hrule, hpath, htext, hform, hkeeps⟩ := hurl 0 _ hsent
  cases hrule
  have hpath : path = "/@[::2]" := hpath.trans (by decide)
  subst hpath
  obtain ⟨hsame, hread⟩ := hkeeps (.inl (by simp [Url.endsAuthority, Url.isSlash]))
  obtain ⟨u, hu⟩ := hread (by simp [context, Url.isEdge])
  have hparse : Url.parse context.target = .ok
      { scheme := "http", username := "", password := none
        host := some (.ipv6 [0, 0, 0, 0, 0, 0, 0, 1]), port := none, path := "/", query := none
        fragment := none } := by
    decide
  cases horigin.symm.trans hparse
  have hauthority := hsame u hu
  exact ⟨htarget, _, u, hsent, htext.trans (by decide), hform.mpr (by simp [Url.IsContinuation]), hu,
    hauthority.scheme.symm, hauthority.host.symm, hauthority.port.symm⟩

/-- A path that starts otherwise is appended as well, and can lead to another host. -/
theorem sent_leaves_target :
    let context : Context :=
      { target := "http://[::1]", registry := .initial, transport := fun _ _ => .error .noMoreAnswers }
    let rule : Rule :=
      { method := "GET", path := "@[::2]", body := "", headers := [], followRedirects := true
        search := none, expression := "true" }
    Target.normalize "http://[::1]" = .ok context.target ∧
      ∃ request, ((start []).execute context (.ofSeed 0) [rule]).2.sent = [request] ∧
        ¬ Url.Extends context.target request.url ∧
        (Url.parse context.target).map Url.host = .ok (some (.ipv6 [0, 0, 0, 0, 0, 0, 0, 1])) ∧
        (Url.parse request.url).map Url.host = .ok (some (.ipv6 [0, 0, 0, 0, 0, 0, 0, 2])) := by
  intro context rule
  refine ⟨by decide, rule.request context.target, by decide, ?_,
    by decide, by decide⟩
  rw [Rule.request, Url.extends_append_iff]
  intro hpath
  exact absurd (hpath '@' (by decide)) (by decide)

end Run

end VulnProbe
