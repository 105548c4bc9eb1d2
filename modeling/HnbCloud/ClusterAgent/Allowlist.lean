import HnbCloud.Lib.Url
import HnbCloud.Lib.Text
import Mathlib.Data.List.DropRight

set_option autoImplicit false

/-! # The allowlist of the cluster agent

The cluster agent takes requests from the tunnel and passes them on to the Kubernetes API. It lets
through only the resources and methods of a list. `kubeProxyAllowed` decodes the path, splits it and
looks the resource up; what it does with the segments is `allowsSegments`, so that the same question
can be asked about the segments the API server finds. -/

namespace HnbCloud.ClusterAgent

open List

open Url (slash unescape)

/-- `strings.ToUpper`, as far as ASCII letters come out of it. -/
def upperChar (c : Char) : Char :=
  if 'a' ≤ c ∧ c ≤ 'z' then Char.ofNat (c.toNat - 32)
  else if c.toNat = 0x17F then 'S'
  else if c.toNat = 0x131 then 'I'
  else c

def toUpper (s : String) : String := String.ofList (s.toList.map upperChar)

/-- `strings.Trim(path, "/")`. -/
def trimSlashes (path : Bytes) : Bytes :=
  (path.dropWhile (· == slash)).rdropWhile (· == slash)

def kubeProxyAllowlist : List (String × List String) :=
  [("/nodes", ["GET"]), ("/services", ["GET", "POST", "PATCH", "DELETE"]),
    ("/persistentvolumes", ["GET"]),
    ("/persistentvolumeclaims", ["GET"]),
    ("/configmaps", ["GET", "POST", "PATCH", "DELETE"]),
    ("/secrets", ["GET", "POST", "DELETE"]),
    ("/events", ["GET"]),
    ("/pods", ["GET", "PATCH", "DELETE"]),
    ("/pods/log", ["GET"]),
    ("apps/deployments", ["GET", "PATCH", "DELETE"]),
    ("apps/statefulsets", ["GET", "PATCH", "DELETE"]),
    ("apps/daemonsets", ["GET", "PATCH", "DELETE"]),
    ("batch/jobs", ["GET", "PATCH", "DELETE"]),
    ("batch/cronjobs", ["GET", "PATCH", "DELETE"]),
    ("networking.k8s.io/ingresses", ["GET", "POST", "PATCH", "DELETE"]),
    ("networking.k8s.io/networkpolicies", ["GET", "POST", "PATCH", "DELETE"]),
    ("storage.k8s.io/storageclasses", ["GET"]),
    ("storage.k8s.io/csidrivers", ["GET"]),
    ("storage.k8s.io/csinodes", ["GET"]),
    ("storage.k8s.io/csistoragecapacities", ["GET"]),
    ("storage.k8s.io/volumeattachments", ["GET"]),
    ("snapshot.storage.k8s.io/volumesnapshots", ["GET"]),
    ("snapshot.storage.k8s.io/volumesnapshotclasses", ["GET"]),
    ("snapshot.storage.k8s.io/volumesnapshotcontents", ["GET"]),
    ("metallb.io/ipaddresspools", ["GET", "POST", "PATCH", "DELETE"])]

/-- The group, and where the resource stands if there is no namespace. -/
def groupAndIndex (segments : List Bytes) : Option (Bytes × Nat) :=
  if segments[0]? = some (ascii "api") then
    if segments.length < 3 then none else some ([], 2)
  else if segments[0]? = some (ascii "apis") then
    if segments.length < 4 then none else some (segments.getD 1 [], 3)
  else none

/-- The key under which the resource is looked up. -/
def resourceKey (segments : List Bytes) : Option Bytes :=
  match groupAndIndex segments with
  | none => none
  | some (group, index) =>
  let resourceIndex := if segments[index]? = some (ascii "namespaces") then index + 2 else index
  let remaining := segments.length - resourceIndex
  if remaining < 1 ∨ 3 < remaining then none
  else
    let key := group ++ slash :: segments.getD resourceIndex []
    some (if remaining = 3 then key ++ slash :: segments.getD (resourceIndex + 2) [] else key)

/-- What the list says about a method and the segments of a path. -/
def allowsSegments (method : String) (segments : List Bytes) : Bool :=
  if segments.any (fun segment => segment == [] || segment == ascii "." || segment == ascii "..")
  then false
  else
  match resourceKey segments with
  | none => false
  | some key =>
  match kubeProxyAllowlist.find? fun row => ascii row.1 == key with
  | none => false
  | some row => row.2.contains (toUpper method)

def kubeProxyAllowed (method : String) (path : Bytes) : Bool :=
  match unescape (trimSlashes path) with
  | none | some [] => false
  | some decoded => allowsSegments method (decoded.splitOn slash)

/-- The segments the API server finds in the path of a request: it decodes the path and splits what is
    left without the slashes at its ends. -/
def serverSegments (path : Bytes) : List Bytes :=
  if trimSlashes path = [] then [] else (trimSlashes path).splitOn slash

/-! ## Slashes at the ends -/

variable (path : Bytes)

theorem trimSlashes_cons : trimSlashes (slash :: path) = trimSlashes path := by
  unfold trimSlashes
  rw [dropWhile_cons_of_pos (by simp)]

@[simp] theorem serverSegments_cons :
    serverSegments (slash :: path) = serverSegments path := by
  unfold serverSegments
  rw [trimSlashes_cons]

theorem eq_trimSlashes : ∃ front back, path = front ++ trimSlashes path ++ back
      ∧ (∀ b ∈ front, b = slash) ∧ ∀ b ∈ back, b = slash := by
  refine ⟨path.takeWhile (· == slash),
    (path.dropWhile (· == slash)).rtakeWhile (· == slash), ?_, ?_, ?_⟩
  · unfold trimSlashes
    rw [append_assoc, rdropWhile_append_rtakeWhile, takeWhile_append_dropWhile]
  · intro b hb
    simpa using mem_takeWhile_imp hb
  · intro b hb
    simpa using mem_rtakeWhile_imp hb

theorem unescape_slashes {bs : Bytes} (h : ∀ b ∈ bs, b = slash) : unescape bs = some bs := by
  induction bs with
  | nil => rfl
  | cons b _ ih =>
    rw [h b mem_cons_self, Url.unescape_cons (by decide),
      ih fun b' hb' => h b' (mem_cons_of_mem _ hb')]
    rfl

theorem unescape_of_trimSlashes {path decoded : Bytes}
    (h : unescape (trimSlashes path) = some decoded) :
    ∃ front back, unescape path = some (front ++ decoded ++ back)
      ∧ (∀ b ∈ front, b = slash) ∧ ∀ b ∈ back, b = slash := by
  obtain ⟨front, back, hpath, hfront, hback⟩ := eq_trimSlashes path
  refine ⟨front, back, ?_, hfront, hback⟩
  rw [hpath, append_assoc, Url.unescape_append (unescape_slashes hfront),
    Url.unescape_append h, unescape_slashes hback]
  simp

theorem trimSlashes_append {front back decoded : Bytes} (hfront : ∀ b ∈ front, b = slash)
    (hback : ∀ b ∈ back, b = slash) (hne : decoded ≠ []) (hhead : decoded.head hne ≠ slash)
    (hlast : decoded.getLast hne ≠ slash) : trimSlashes (front ++ decoded ++ back) = decoded := by
  have hdrop : (decoded ++ back).dropWhile (· == slash) = decoded ++ back := by
    cases decoded with
    | nil => exact absurd rfl hne
    | cons => exact dropWhile_cons_of_neg (by simpa using hhead)
  unfold trimSlashes
  rw [append_assoc, dropWhile_append_of_pos (by simpa using hfront), hdrop]
  unfold List.rdropWhile
  rw [reverse_append, dropWhile_append_of_pos (by simpa using hback)]
  refine rdropWhile_eq_self_iff.2 ?_
  intro _
  simpa using hlast

theorem ends_of_splitOn {decoded : Bytes} (h : [] ∉ decoded.splitOn slash) :
    ∃ hne : decoded ≠ [], decoded.head hne ≠ slash ∧ decoded.getLast hne ≠ slash := by
  have hne : decoded ≠ [] := by
    rintro rfl
    exact h (by simp)
  refine ⟨hne, ?_, ?_⟩
  · intro hhead
    obtain ⟨rest, hrest⟩ : ∃ rest, decoded = [] ++ slash :: rest :=
      ⟨decoded.tail, by rw [nil_append, ← hhead, cons_head_tail]⟩
    rw [hrest, splitOn_append_cons_self] at h
    exact h (by simp)
  · intro hlast
    obtain ⟨rest, hrest⟩ : ∃ rest, decoded = rest ++ slash :: [] :=
      ⟨decoded.dropLast, by rw [← hlast, dropLast_append_getLast]⟩
    rw [hrest, splitOn_append_cons_self] at h
    exact h (by simp)

theorem ne_nil_of_allowsSegments {method : String} {segments : List Bytes}
    (h : allowsSegments method segments = true) : [] ∉ segments := by
  intro hmem
  unfold allowsSegments at h
  rw [if_pos] at h
  · simp at h
  · exact any_eq_true.2 ⟨[], hmem, rfl⟩

/-- What is allowed is decoded, and the API server finds the segments that were allowed. -/
theorem kubeProxyAllowed_server {method : String} {path : Bytes}
    (h : kubeProxyAllowed method path = true) :
    ∃ read, unescape path = some read ∧ allowsSegments method (serverSegments read) = true := by
  unfold kubeProxyAllowed at h
  split at h
  · simp at h
  · simp at h
  next decoded hnil hdecoded =>
  obtain ⟨hne, hhead, hlast⟩ := ends_of_splitOn (ne_nil_of_allowsSegments h)
  obtain ⟨front, back, hread, hfront, hback⟩ := unescape_of_trimSlashes hdecoded
  refine ⟨_, hread, ?_⟩
  unfold serverSegments
  rw [trimSlashes_append hfront hback hne hhead hlast, if_neg hne]
  exact h

end HnbCloud.ClusterAgent
