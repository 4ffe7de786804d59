import FleetWatch.Gateway
import FleetWatch.Proofs.Cluster.Wire
import FleetWatch.Proofs.Url.Endpoints

/-! # Where a toggle arrives

The request that turns a cluster on or off names it twice: in its path, behind `/api/cluster/`, and
in its body. The body always reads back. The path names the cluster unless its name is one dot or
two, which a path does not keep: these requests arrive at the cluster with no name and above it.
-/

namespace FleetWatch

theorem Gateway.withoutSlashes_concat {last : Char} (kept : last ≠ '/') (front : List Char) :
    withoutSlashes (front ++ [last]) = front ++ [last] := by
  rw [withoutSlashes, List.reverse_concat, List.dropWhile_cons_of_neg (by simpa using kept),
    List.reverse_cons, List.reverse_reverse]

/-- The path is that of a cluster: one segment stands at its end that means the name. -/
def HttpRequest.IsAtCluster (request : HttpRequest) (name : String) : Prop :=
  ∃ segment, request.url.target = "/api/cluster/".toList ++ segment ∧ '/' ∉ segment ∧
    '?' ∉ segment ∧ Percent.decode segment = Utf8.bytes name

namespace HttpEndpoint

variable (e : HttpEndpoint)

def gateway : Gateway := Gateway.ofEndpoint e.text

theorem gateway_eq : e.gateway = ⟨e.text⟩ := by
  have named : e.authority ≠ [] := by simp [authority]
  let last := e.authority.getLast named
  have kept : last ≠ '/' :=
    (Url.bounds_of_isBare (e.authority_bare _ (List.getLast_mem named))).2.1
  have ends : e.text.toList = ("http://".toList ++ e.authority.dropLast) ++ [last] := by
    calc e.text.toList
      _ = "http://".toList ++ e.authority := String.toList_ofList
      _ = "http://".toList ++ (e.authority.dropLast ++ [last]) := by
        rw [List.dropLast_concat_getLast]
      _ = ("http://".toList ++ e.authority.dropLast) ++ [last] := (List.append_assoc ..).symm
  rw [gateway, Gateway.ofEndpoint, ends, Gateway.withoutSlashes_concat kept, ← ends,
    String.ofList_toList]

/-- The request that turns a cluster on or off. -/
def toggle (name : String) (enabled : Bool) : HttpRequest where
  method := .patch
  url := e.urlOf (Url.segmentsOf false ("api/cluster/".toList ++ Percent.segment name))
  body := some (UpdateRequest.codec.encode ⟨name, enabled⟩)

theorem request?_setEnabled (name : String) (enabled : Bool) :
    e.gateway.request? (.command (.setEnabled name enabled)) =
      if (e.toggle name enabled).url.isSendable then .ok (e.toggle name enabled)
      else
        .error (.request ("builder error for url (" ++ (e.toggle name enabled).url.text ++ ")")) := by
  have plain : ∀ c ∈ "api/cluster/".toList ++ Percent.segment name, Url.isPathChar c = true := by
    intro c listed
    rcases List.mem_append.mp listed with front | inName
    · have all : "api/cluster/".toList.all Url.isPathChar = true := rfl
      exact List.all_eq_true.mp all c front
    · exact Bool.or_eq_true_iff.mpr (.inr (Percent.standsInPath_of_mem_segment inName))
  have parsed : Url.parse? (e.text ++
      String.ofList (AdminCall.path (.command (.setEnabled name enabled)))) =
        some (e.toggle name enabled).url := e.parse?_text plain
  have isHttp : (e.toggle name enabled).url.isHttp = true := rfl
  have bare : (e.toggle name enabled).url.withoutCredentials = (e.toggle name enabled).url := rfl
  rw [gateway_eq, Gateway.request?, parsed]
  simp only [bare, isHttp, Bool.true_and]
  rfl

theorem target_toggle (name : String) (enabled : Bool) :
    (e.toggle name enabled).url.target =
      if name = ".." then "/api/".toList
      else if name = "." then "/api/cluster/".toList
      else "/api/cluster/".toList ++ Percent.segment name := by
  have target : (e.toggle name enabled).url.target =
      (Url.segmentsOf false ("api/cluster/".toList ++ Percent.segment name)).flatMap ('/' :: ·) :=
    List.append_nil _
  rw [target, Url.segmentsOf_cluster]
  split
  · rfl
  · split
    · rfl
    · simp

theorem isAtCluster_toggle_iff {name : String} (named : name ≠ "") (enabled : Bool) :
    (e.toggle name enabled).IsAtCluster name ↔ name ≠ "." ∧ name ≠ ".." := by
  have target := e.target_toggle name enabled
  constructor
  · rintro ⟨segment, asked, -, -, decoded⟩
    rw [target] at asked
    refine ⟨?_, ?_⟩
    · rintro rfl
      have nothing : segment = [] := by simpa using asked
      rw [nothing] at decoded
      exact absurd decoded (by decide)
    · rintro rfl
      have shorter := congrArg List.length asked
      simp at shorter
  · rintro ⟨notHere, notUp⟩
    have stands : ∀ c ∈ Percent.segment name, _ := fun c listed =>
      Percent.not_separator_of_standsInPath (Percent.standsInPath_of_mem_segment listed)
    refine ⟨Percent.segment name, by simpa [notHere, notUp] using target, ?_, ?_,
      Percent.decode_segment name⟩
    · exact fun listed => (stands _ listed).2.1 rfl
    · exact fun listed => (stands _ listed).2.2.2.1 rfl

/-- The name that a path stands for, told from where the requests for dots arrive. -/
def nameAt (target : List Char) : Bytes :=
  if target = "/api/".toList then Utf8.bytes ".."
  else if target = "/api/cluster/".toList then Utf8.bytes "."
  else Percent.decode (target.drop "/api/cluster/".toList.length)

theorem nameAt_toggle {name : String} (named : name ≠ "") (enabled : Bool) :
    nameAt (e.toggle name enabled).url.target = Utf8.bytes name := by
  rw [target_toggle]
  by_cases up : name = ".."
  · rw [if_pos up, up]
    rfl
  by_cases here : name = "."
  · rw [if_neg up, if_pos here, here]
    rfl
  have written : Percent.segment name ≠ [] := by
    intro nothing
    have decoded := Percent.decode_segment name
    rw [nothing] at decoded
    exact named (Utf8.bytes_injective (decoded.symm.trans (by decide)))
  have notAbove : "/api/cluster/".toList ++ Percent.segment name ≠ "/api/".toList := fun same => by
    have lengths := congrArg List.length same
    simp at lengths
  have notNameless : "/api/cluster/".toList ++ Percent.segment name ≠ "/api/cluster/".toList :=
    fun same => written (List.append_right_eq_self.mp same)
  rw [if_neg up, if_neg here, nameAt, if_neg notAbove, if_neg notNameless, List.drop_left,
    Percent.decode_segment]

/-- Every toggle that can be written is sent with a body that names the cluster, no two names share
a path, and the path is that of the cluster unless the name is one dot or two. -/
theorem toggle_arrives_iff_not_dots {name : String} (named : name ≠ "") (enabled : Bool) :
    (e.gateway.request? (.command (.setEnabled name enabled)) =
      if (e.toggle name enabled).url.isSendable then .ok (e.toggle name enabled)
      else
        .error (.request ("builder error for url (" ++ (e.toggle name enabled).url.text ++ ")"))) ∧
    (e.toggle name enabled).method = .patch ∧
    (e.toggle name enabled).body.bind UpdateRequest.codec.decode? = some ⟨name, enabled⟩ ∧
    ((e.toggle name enabled).IsAtCluster name ↔ name ≠ "." ∧ name ≠ "..") ∧
    (name = "." → (e.toggle name enabled).url.target = "/api/cluster/".toList) ∧
    (name = ".." → (e.toggle name enabled).url.target = "/api/".toList) ∧
    ∀ other flag, other ≠ "" →
      (e.toggle other flag).url.target = (e.toggle name enabled).url.target → other = name := by
  refine ⟨e.request?_setEnabled name enabled, rfl, ?_, e.isAtCluster_toggle_iff named enabled,
    ?_, ?_, ?_⟩
  · exact UpdateRequest.lossless_codec.decode_encode ⟨name, enabled⟩
  · rintro rfl
    exact e.target_toggle "." enabled
  · rintro rfl
    exact e.target_toggle ".." enabled
  · intro other flag otherNamed same
    apply Utf8.bytes_injective
    rw [← e.nameAt_toggle otherNamed flag, same, e.nameAt_toggle named]

/-- The endpoint `http://[::1]:8080`. -/
def loopback : HttpEndpoint where
  host := "[::1]".toList
  port := "8080".toList
  address := "[::1]".toList
  host_bare := List.all_eq_true.mp rfl
  host_form := .inr ⟨"::1".toList, rfl, by decide⟩
  host_eq := by decide +kernel
  port_digits := List.all_eq_true.mp rfl
  port_lt := by decide

theorem loopback_toggles_etl :
    "etl" ≠ "" ∧
    (loopback.gateway.request? (.command (.setEnabled "etl" true)) =
      .ok (loopback.toggle "etl" true)) ∧
    (loopback.toggle "etl" true).IsAtCluster "etl" := by
  have named : "etl" ≠ "" := by decide
  have arrives := loopback.toggle_arrives_iff_not_dots named true
  refine ⟨named, ?_, arrives.2.2.2.1.mpr (by decide)⟩
  rw [arrives.1, if_pos (by decide +kernel)]

/-- The request for two dots is sent, and arrives above the clusters. -/
theorem loopback_toggles_above_clusters :
    ∃ request, loopback.gateway.request? (.command (.setEnabled ".." true)) = .ok request ∧
      request.url.target = "/api/".toList ∧ ¬ request.IsAtCluster ".." := by
  refine ⟨loopback.toggle ".." true, ?_, loopback.target_toggle ".." true, ?_⟩
  · rw [request?_setEnabled, if_pos (by decide +kernel)]
  · intro atCluster
    exact ((loopback.isAtCluster_toggle_iff (by decide) true).mp atCluster).2 rfl

end HttpEndpoint
end FleetWatch
