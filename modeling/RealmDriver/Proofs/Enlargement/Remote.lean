import RealmDriver.Proofs.Realm.Memory
import RealmDriver.Proofs.Realm.Remote
import RealmDriver.Proofs.Validation

namespace RealmDriver

namespace Binary64

def le (x y : Binary64) : Bool :=
  match x.place, y.place with
  | some a, some b => a ≤ b
  | _, _ => false

theorem lt_iff {x y : Binary64} :
    x.lt y = true ↔ ∃ a b, x.place = some a ∧ y.place = some b ∧ a < b := by
  unfold lt
  split
  · rename_i a b ha hb
    simp [ha, hb]
  · rename_i hnone
    simp only [Bool.false_eq_true, false_iff]
    rintro ⟨a, b, ha, hb, -⟩
    exact hnone a b ha hb

theorem le_iff {x y : Binary64} :
    x.le y = true ↔ ∃ a b, x.place = some a ∧ y.place = some b ∧ a ≤ b := by
  unfold le
  split
  · rename_i a b ha hb
    simp [ha, hb]
  · rename_i hnone
    simp only [Bool.false_eq_true, false_iff]
    rintro ⟨a, b, ha, hb, -⟩
    exact hnone a b ha hb

theorem not_lt_self (x : Binary64) : x.lt x = false := by
  rw [Bool.eq_false_iff]
  intro h
  obtain ⟨a, b, ha, hb, hlt⟩ := lt_iff.1 h
  rw [ha] at hb
  cases hb
  exact Int.lt_irrefl a hlt

end Binary64

theorem Quota.ofBytes_place (bytes : Int) : ∃ t, (ofBytes bytes).place = some t := by
  rw [ofBytes, Binary64.ofRatio, Binary64.ofRank]
  cases decide (bytes < 0) <;> exact ⟨_, rfl⟩

namespace Enlargement

open Remote (KeepsQuotas replaced allSucceed)

variable (target : Quota) (q : Bound → Quota)

/-- The hard quota is zero or not below the soft one. -/
def Ordered : Prop := (q .hard).place = some 0 ∨ (q .soft).le (q .hard) = true

instance : Decidable (Ordered q) := inferInstanceAs (Decidable (_ ∨ _))

def hinders : Bool := (q .hard).isPositive && (q .hard).lt target

def raised : List Bound := (if hinders target q then [.hard] else []) ++ [.soft]

def finished : Bound → Quota := replaced target (raised target q) q

variable {target q}

theorem raised_of_hinders (h : hinders target q = true) : raised target q = [.hard, .soft] := by
  rw [raised, if_pos h]
  rfl

theorem raised_of_not_hinders (h : hinders target q = false) : raised target q = [.soft] := by
  rw [raised, if_neg (Bool.eq_false_iff.1 h)]
  rfl

theorem growth_eq (record : VolumeRecord) (name : String) :
    Remote.growth record name target =
      (raised target record.quota).map fun b ↦ Command.setQuota name b target := by
  change (if hinders target record.quota then _ else _) ++ _ = _
  cases h : hinders target record.quota with
  | true =>
    rw [raised_of_hinders h]
    rfl
  | false =>
    rw [raised_of_not_hinders h]
    rfl

theorem finished_soft : finished target q .soft = target := by
  cases h : hinders target q with
  | true =>
    rw [finished, raised_of_hinders h]
    rfl
  | false =>
    rw [finished, raised_of_not_hinders h]
    rfl

theorem finished_hard :
    finished target q .hard = if hinders target q then target else q .hard := by
  cases h : hinders target q with
  | true =>
    rw [finished, raised_of_hinders h]
    rfl
  | false =>
    rw [finished, raised_of_not_hinders h]
    rfl

theorem grown_quota (record : VolumeRecord) :
    (RealmMemory.grown record target).quota = finished target record.quota := by
  funext b
  cases b with
  | soft => exact finished_soft.symm
  | hard =>
    rw [finished_hard]
    rfl

/-- An expansion that breaks off has done nothing, has raised the hard quota alone or has done all. -/
theorem partly_cases (k : Nat) :
    replaced target ((raised target q).take k) q = q ∨
    hinders target q = true ∧
      replaced target ((raised target q).take k) q = Function.update q .hard target ∨
    replaced target ((raised target q).take k) q = finished target q := by
  rw [finished]
  cases h : hinders target q with
  | true =>
    rw [raised_of_hinders h]
    match k with
    | 0 => exact .inl rfl
    | 1 => exact .inr (.inl ⟨rfl, rfl⟩)
    | k + 2 =>
      rw [List.take_of_length_le (by simp)]
      exact .inr (.inr rfl)
  | false =>
    rw [raised_of_not_hinders h]
    match k with
    | 0 => exact .inl rfl
    | k + 1 =>
      rw [List.take_of_length_le (by simp)]
      exact .inr (.inr rfl)

theorem not_hinders_of_hard_eq (h : q .hard = target) : hinders target q = false := by
  rw [hinders, h, Binary64.not_lt_self, Bool.and_false]

theorem not_hinders_finished : hinders target (finished target q) = false := by
  cases h : hinders target q with
  | true =>
    apply not_hinders_of_hard_eq
    rw [finished_hard, if_pos h]
  | false =>
    have hhard : finished target q .hard = q .hard := by rw [finished_hard, h, if_neg Bool.false_ne_true]
    rw [hinders, hhard]
    exact h

theorem finished_of_partly (k : Nat) :
    finished target (replaced target ((raised target q).take k) q) = finished target q := by
  rcases partly_cases k with hnone | ⟨h, hfirst⟩ | hall
  · rw [hnone]
  · have hraised : hinders target (Function.update q .hard target) = false :=
      not_hinders_of_hard_eq rfl
    rw [hfirst]
    funext b
    cases b with
    | soft => rw [finished_soft, finished_soft]
    | hard =>
      rw [finished_hard, finished_hard, hraised, h]
      rfl
  · rw [hall]
    funext b
    cases b with
    | soft => rw [finished_soft, finished_soft]
    | hard =>
      rw [finished_hard, not_hinders_finished]
      rfl

theorem hinders_iff {t b : Int} (htarget : target.place = some t) (hhard : (q .hard).place = some b) :
    hinders target q = true ↔ 0 < b ∧ b < t := by
  have hzero : Binary64.zero.place = some 0 := rfl
  rw [hinders, Bool.and_eq_true, Binary64.isPositive, Binary64.lt_iff, Binary64.lt_iff, hzero,
    hhard, htarget]
  simp

theorem ordered_finished {t : Int} (htarget : target.place = some t) (hordered : Ordered q)
    (hsign : (q .hard).lt Binary64.zero = false) : Ordered (finished target q) := by
  rw [Ordered, finished_soft, finished_hard]
  cases h : hinders target q with
  | true => exact .inr (Binary64.le_iff.2 ⟨t, t, htarget, htarget, le_rfl⟩)
  | false =>
    rw [if_neg Bool.false_ne_true]
    rcases hordered with hzero | hle
    · exact .inl hzero
    · obtain ⟨a, b, hsoft, hhard, hab⟩ := Binary64.le_iff.1 hle
      have hnonneg : 0 ≤ b := by
        by_contra hneg
        exact Bool.eq_false_iff.1 hsign (Binary64.lt_iff.2 ⟨b, 0, hhard, rfl, by omega⟩)
      rw [Bool.eq_false_iff, Ne, hinders_iff htarget hhard] at h
      rcases Int.lt_or_eq_of_le hnonneg with hpos | rfl
      · exact .inr (Binary64.le_iff.2 ⟨t, b, htarget, hhard, by omega⟩)
      · exact .inl hhard

theorem ordered_update_hard {t : Int} (htarget : target.place = some t) (hordered : Ordered q)
    (h : hinders target q = true) : Ordered (Function.update q .hard target) := by
  rcases hordered with hzero | hle
  · have hpos := ((hinders_iff htarget hzero).1 h).1
    omega
  · obtain ⟨a, b, hsoft, hhard, hab⟩ := Binary64.le_iff.1 hle
    have hbt := ((hinders_iff htarget hhard).1 h).2
    exact .inr (Binary64.le_iff.2 ⟨a, t, hsoft, htarget, by omega⟩)

/-- Wherever an expansion breaks off, the hard quota is not below the soft one. -/
theorem ordered_of_partly {t : Int} (htarget : target.place = some t)
    (hordered : Ordered q) (hsign : (q .hard).lt Binary64.zero = false) (k : Nat) :
    Ordered (replaced target ((raised target q).take k) q) := by
  rcases partly_cases k with hnone | ⟨h, hfirst⟩ | hall
  · rw [hnone]
    exact hordered
  · rw [hfirst]
    exact ordered_update_hard htarget hordered h
  · rw [hall]
    exact ordered_finished htarget hordered hsign

section

variable (old : Bound → Quota) (target : Quota)

/-- The quotas of a volume when some of them were brought to a target. -/
def partly (raised : Bool × Bool) : Bound → Quota
  | .soft => if raised.1 then target else old .soft
  | .hard => if raised.2 then target else old .hard

def listing (q : Bound → Quota) : List UInt8 :=
  ("<volume><name>a</name><softQuotaGB>" ++ (q .soft).text ++ "</softQuotaGB><hardQuotaGB>" ++
    (q .hard).text ++ "</hardQuotaGB></volume>").toUTF8.data.toList

/-- A realm with one volume that takes no other commands than to list it and to bring its quotas to a
target. -/
def narrowRealm : Machine (Bool × Bool) where
  find? _ program := some ("/usr/bin/" ++ program)
  run i _ raised :=
    let line := i.arguments.getLast?
    if line = some (Shell.line (Command.lookup "a")) then
      (.ok ⟨listing (partly old target raised), .exited 0⟩, raised)
    else if line = some (Shell.line (Command.setQuota "a" .soft target)) then
      (.ok ⟨[], .exited 0⟩, (true, raised.2))
    else if line = some (Shell.line (Command.setQuota "a" .hard target)) then
      (.ok ⟨[], .exited 0⟩, (raised.1, true))
    else (.ok ⟨[], .exited 1⟩, raised)
  readTable raised := (.ok [], raised)

def Readable (q : Bound → Quota) : Bool :=
  match (Listing.findAll Listing.section? 0 (Text.readOn none (listing q))).mapM Listing.record with
  | .ok records =>
    (records.find? (·.name = VolumeName.strip "a")).any fun r ↦ r.soft = q .soft ∧ r.hard = q .hard
  | .error _ => false

variable {old target}

theorem of_readable {q : Bound → Quota} (h : Readable q = true) :
    ∃ records record, Listing.read (Text.decodeLossy (listing q)) = .ok records ∧
      records.find? (·.name = VolumeName.strip "a") = some record ∧ record.quota = q := by
  rw [Listing.read, Text.decodeLossy, String.toList_ofList]
  unfold Readable at h
  split at h
  · rename_i records hread
    cases hfind : records.find? (·.name = VolumeName.strip "a") with
    | none =>
      rw [hfind] at h
      cases h
    | some record =>
      rw [hfind] at h
      obtain ⟨hsoft, hhard⟩ := of_decide_eq_true h
      refine ⟨records, record, hread, hfind, ?_⟩
      funext b
      cases b with
      | soft => exact hsoft
      | hard => exact hhard
  · cases h

theorem setLine_toList (b : Bound) (text : String) :
    (Shell.line ["volume", "set", b.name, VolumeName.path "a", text]).toList =
      "volume set ".toList ++ b.name.toList ++ " /a ".toList ++ Shell.quoted text.toList := by
  rw [Shell.line, String.toList_ofList, ← List.append_nil (Shell.quoted text.toList)]
  cases b <;> rfl

theorem of_quoted_eq {w cs : List Char} (h : Shell.quoted w = cs) (hcs : Shell.quote ∉ cs) :
    w = cs := by
  rw [Shell.quoted] at h
  split at h
  · exact h
  · subst h
    simp at hcs

theorem setLine_inj {b : Bound} (b' : Bound) {text text' : String}
    (hplain : Shell.quoted text'.toList = text'.toList) (hquote : Shell.quote ∉ text'.toList)
    (h : Shell.line ["volume", "set", b.name, VolumeName.path "a", text] =
      Shell.line ["volume", "set", b'.name, VolumeName.path "a", text']) :
    b = b' ∧ text = text' := by
  have hlist := congrArg String.toList h
  rw [setLine_toList, setLine_toList, hplain] at hlist
  have hlength (b : Bound) :
      ("volume set ".toList ++ b.name.toList ++ " /a ".toList).length = 19 := by
    cases b <;> decide
  obtain ⟨hhead, htail⟩ := List.append_inj hlist ((hlength b).trans (hlength b').symm)
  refine ⟨?_, String.toList_inj.1 (of_quoted_eq htail hquote)⟩
  cases b <;> cases b' <;> first | rfl | exact absurd hhead (by decide)

theorem setLine_ne_lookup (b : Bound) (text : String) :
    Shell.line ["volume", "set", b.name, VolumeName.path "a", text] ≠
      Shell.line (Command.lookup "a") := by
  intro h
  have hlist := congrArg String.toList h
  rw [setLine_toList] at hlist
  have hhead : some 'v' = (Shell.line (Command.lookup "a")).toList.head? := congrArg List.head? hlist
  exact absurd hhead (by decide)

theorem narrowRealm_run_cases {i : Invocation} {files : FileTree} {before after : Bool × Bool}
    {r : Except SystemFault Finished}
    (hrun : (narrowRealm old target).run i files before = (r, after)) :
    (i.arguments.getLast? = some (Shell.line (Command.lookup "a")) ∧
      r = .ok ⟨listing (partly old target before), .exited 0⟩ ∧ after = before) ∨
    (∃ b, i.arguments.getLast? = some (Shell.line (Command.setQuota "a" b target)) ∧
      r = .ok ⟨[], .exited 0⟩ ∧
      partly old target after = Function.update (partly old target before) b target) ∨
    (i.arguments.getLast? ≠ some (Shell.line (Command.lookup "a")) ∧ r = .ok ⟨[], .exited 1⟩ ∧
      after = before) := by
  simp only [narrowRealm] at hrun
  split at hrun
  · rename_i hlookup
    cases hrun
    exact .inl ⟨hlookup, rfl, rfl⟩
  · rename_i hother
    split at hrun
    · rename_i hsoft
      cases hrun
      refine .inr (.inl ⟨.soft, hsoft, rfl, ?_⟩)
      funext b
      cases b <;> rfl
    · split at hrun
      · rename_i hhard
        cases hrun
        refine .inr (.inl ⟨.hard, hhard, rfl, ?_⟩)
        funext b
        cases b <;> rfl
      · cases hrun
        exact .inr (.inr ⟨hother, rfl, rfl⟩)

theorem narrowRealm_keepsQuotas (hreadable : ∀ raised, Readable (partly old target raised) = true)
    (hplain : Shell.quoted target.text.toList = target.text.toList)
    (hquote : Shell.quote ∉ target.text.toList) :
    KeepsQuotas (narrowRealm old target) "a" (partly old target) where
  query hline hrun hend := by
    rcases narrowRealm_run_cases hrun with ⟨-, hf, rfl⟩ | ⟨b, hset, -⟩ | ⟨hother, -⟩
    · cases hf
      exact ⟨rfl, of_readable (hreadable _)⟩
    · rw [hline] at hset
      exact absurd (Option.some.inj hset).symm (setLine_ne_lookup b _)
    · exact absurd hline hother
  set b text hline hrun hend := by
    rcases narrowRealm_run_cases hrun with ⟨hlookup, -⟩ | ⟨b', hset, -, hstored⟩ | ⟨-, hf, -⟩
    · rw [hline] at hlookup
      exact absurd (Option.some.inj hlookup) (setLine_ne_lookup b text)
    · rw [hline] at hset
      obtain ⟨rfl, rfl⟩ := setLine_inj b' hplain hquote (Option.some.inj hset)
      exact ⟨target, Quota.read?_text target, hstored⟩
    · cases hf
      cases hend
  failed hrun hend := by
    rcases narrowRealm_run_cases hrun with ⟨-, hf, -⟩ | ⟨-, -, hf, -⟩ | ⟨-, hf, rfl⟩
    · cases hf
      cases hend
    · cases hf
      cases hend
    · cases hf
      exact ⟨rfl, by decide⟩
  broken hrun := by
    rcases narrowRealm_run_cases hrun with ⟨-, hf, -⟩ | ⟨-, -, hf, -⟩ | ⟨-, hf, -⟩
    · cases hf
    · cases hf
    · cases hf

end

section

variable {ω : Type} (s : SessionSettings) (m : Machine ω) (name : String) (bytes : Int)
  (secrets : Dictionary)

def attempt : Nat → Action (Host ω) RealmError Unit
  | 0 => pure ()
  | n + 1 => do
    let record ← Remote.lookup s m name secrets
    ((Remote.growth record name (Quota.ofBytes bytes)).take n).forM fun command ↦ do
      let _ ← Session.run s m secrets command

def commands (target : Quota) (q : Bound → Quota) : List (List String) :=
  Command.lookup name :: (raised target q).map fun b ↦ Command.setQuota name b target

/-- An expansion in memory of a volume with some quotas succeeds and leaves others. -/
def AsInMemory (before after : Bound → Quota) : Prop :=
  ∀ memory record, memory.failure = none → RealmMemory.record? memory name = some record →
    record.quota = before → ∃ memory' record',
      (RealmMemory.expand name bytes).outcome memory = (.ok (), memory') ∧
      memory'.record? name = some record' ∧ record'.quota = after

variable {m name} {stored : ω → Bound → Quota} (h : Host ω)

theorem attempt_of_le {n : Nat} (hn : 3 ≤ n) :
    attempt s m name bytes secrets n = Remote.expand s m name bytes secrets := by
  obtain ⟨n, rfl⟩ := Nat.exists_eq_add_of_le' hn
  have hlength (record : VolumeRecord) :
      (Remote.growth record name (Quota.ofBytes bytes)).take (n + 2) =
        Remote.growth record name (Quota.ofBytes bytes) := by
    refine List.take_of_length_le ?_
    rw [Remote.growth]
    split <;> simp
  simp only [attempt, hlength, Remote.expand]

theorem asInMemory_finished (q : Bound → Quota) :
    AsInMemory name bytes q (finished (Quota.ofBytes bytes) q) := by
  intro memory record hmemory hrecord hquota
  rw [RealmMemory.expand_outcome, RealmMemory.admission_of_no_failure hmemory, hrecord]
  refine ⟨_, _, rfl, RealmMemory.enlarged_record? memory name bytes record, ?_⟩
  rw [grown_quota, hquota]

theorem attempt_partly (hkeeps : KeepsQuotas m name stored) (n : Nat) :
    ∃ k, stored ((attempt s m name bytes secrets n).outcome h).2.outside =
      replaced (Quota.ofBytes bytes)
        ((raised (Quota.ofBytes bytes) (stored h.outside)).take k) (stored h.outside) := by
  cases n with
  | zero => exact ⟨0, rfl⟩
  | succ n =>
    rw [attempt, Action.outcome_bind]
    rcases Remote.lookup_cases s secrets h hkeeps with
      ⟨e, h', -, hlookup, hsame⟩ | ⟨text, record, h', -, hlookup, hquota, hsame⟩
    · rw [hlookup]
      exact ⟨0, hsame⟩
    · obtain ⟨k, hk⟩ := Remote.setAll_replaced s (Quota.ofBytes bytes) secrets hkeeps
        ((raised (Quota.ofBytes bytes) (stored h.outside)).take n) h'
      rw [hlookup]
      simp only [growth_eq, hquota, ← List.map_take, Remote.forM_setQuota]
      rw [List.take_take, hsame] at hk
      exact ⟨min k n, hk⟩

theorem expand_of_allSucceed (hkeeps : KeepsQuotas m name stored)
    (hall : allSucceed s m secrets
      (commands name (Quota.ofBytes bytes) (stored h.outside)) h = true) :
    ∃ h', (Remote.expand s m name bytes secrets).outcome h = (.ok (), h') ∧
      stored h'.outside = finished (Quota.ofBytes bytes) (stored h.outside) := by
  obtain ⟨text, h₁, hquery, hrest⟩ := Remote.of_allSucceed_cons hall
  rw [Remote.expand, Action.outcome_bind]
  rcases Remote.lookup_cases s secrets h hkeeps with
    ⟨e, h', hfailed, -⟩ | ⟨text', record, h', hquery', hlookup, hquota, hsame⟩
  · rw [hquery] at hfailed
    cases hfailed
  · rw [hquery] at hquery'
    cases hquery'
    obtain ⟨h₂, hdone, hstored⟩ := Remote.setAll_of_allSucceed s _ secrets hkeeps _ h₁ hrest
    refine ⟨h₂, ?_, ?_⟩
    · rw [hlookup]
      simp only [growth_eq, hquota, Remote.forM_setQuota]
      exact hdone
    · rw [hstored, hsame]
      rfl

/-- An expansion at a realm that keeps quotas as it is told. If the hard quota is zero, or neither negative
nor below the soft one, it is zero or not below the soft one after any number of the commands, and wherever
one of them fails. When all of them succeed, the quotas are those that the realm in memory has after the
same expansion; and a repetition, however far the first attempt has come and by whomever it is made, leaves
the same quotas when all of its own commands succeed. -/
theorem expand_refines_memory (hkeeps : KeepsQuotas m name stored) :
    (∀ n, 3 ≤ n →
      attempt s m name bytes secrets n = Remote.expand s m name bytes secrets) ∧
    (Ordered (stored h.outside) → (stored h.outside .hard).lt Binary64.zero = false →
      ∀ n, Ordered (stored ((attempt s m name bytes secrets n).outcome h).2.outside)) ∧
    (allSucceed s m secrets (commands name (Quota.ofBytes bytes) (stored h.outside)) h = true →
      ∃ h', (Remote.expand s m name bytes secrets).outcome h = (.ok (), h') ∧
        AsInMemory name bytes (stored h.outside) (stored h'.outside)) ∧
    ∀ n s' secrets' h₁, ((attempt s m name bytes secrets n).outcome h).2 = h₁ →
      allSucceed s' m secrets' (commands name (Quota.ofBytes bytes) (stored h₁.outside)) h₁ =
        true →
      ∃ h', (Remote.expand s' m name bytes secrets').outcome h₁ = (.ok (), h') ∧
        AsInMemory name bytes (stored h.outside) (stored h'.outside) := by
  obtain ⟨t, htarget⟩ := Quota.ofBytes_place bytes
  refine ⟨?_, ?_, ?_, ?_⟩
  · intro n hn
    exact attempt_of_le s bytes secrets hn
  · intro hordered hsign n
    obtain ⟨k, hk⟩ := attempt_partly s bytes secrets h hkeeps n
    rw [hk]
    exact ordered_of_partly htarget hordered hsign k
  · intro hall
    obtain ⟨h', hexpand, hstored⟩ := expand_of_allSucceed s bytes secrets h hkeeps hall
    refine ⟨h', hexpand, ?_⟩
    rw [hstored]
    exact asInMemory_finished bytes _
  · rintro n s' secrets' h₁ rfl hall
    obtain ⟨k, hk⟩ := attempt_partly s bytes secrets h hkeeps n
    obtain ⟨h', hexpand, hstored⟩ := expand_of_allSucceed s' bytes secrets' _ hkeeps hall
    refine ⟨h', hexpand, ?_⟩
    rw [hstored, hk, finished_of_partly]
    exact asInMemory_finished bytes _

end

def tenToTwelve : Bound → Quota
  | .soft => Quota.ofBytes 10737418240
  | .hard => Quota.ofBytes 12884901888

def belowZero : Bound → Quota
  | .soft => .signed true ⟨0x4024000000000000, by decide⟩
  | .hard => .signed true ⟨0x4014000000000000, by decide⟩

def briefSession : SessionSettings := { connectTimeout := 30, keyDirectory := "/tmp" }

theorem expand_after_interruption :
    ∃ h₁ h', ((attempt briefSession (narrowRealm tenToTwelve (Quota.ofBytes 16106127360)) "a"
        16106127360 Validation.adminSecrets 2).outcome ⟨{}, false, false⟩).2 = h₁ ∧
      h₁.outside = (false, true) ∧
      Ordered (partly tenToTwelve (Quota.ofBytes 16106127360) h₁.outside) ∧
      (Remote.expand briefSession (narrowRealm tenToTwelve (Quota.ofBytes 16106127360)) "a"
        16106127360 Validation.adminSecrets).outcome h₁ = (.ok (), h') ∧
      AsInMemory "a" 16106127360 tenToTwelve
        (partly tenToTwelve (Quota.ofBytes 16106127360) h'.outside) := by
  have hkeeps : KeepsQuotas (narrowRealm tenToTwelve (Quota.ofBytes 16106127360)) "a"
      (partly tenToTwelve (Quota.ofBytes 16106127360)) := by
    refine narrowRealm_keepsQuotas ?_ (by decide +kernel) (by decide +kernel)
    rintro ⟨_ | _, _ | _⟩ <;> decide +kernel
  obtain ⟨-, hordered, -, hrepeat⟩ := expand_refines_memory briefSession 16106127360
    Validation.adminSecrets ⟨{}, false, false⟩ hkeeps
  obtain ⟨h', hexpand, hmemory⟩ :=
    hrepeat 2 briefSession Validation.adminSecrets _ rfl (by decide +kernel)
  exact ⟨_, h', rfl, by decide +kernel, hordered (by decide +kernel) (by decide +kernel) 2, hexpand,
    hmemory⟩

/-- A hard quota below zero is not below a soft one further down, and is not raised with it. -/
theorem expand_leaves_negative :
    KeepsQuotas (narrowRealm belowZero (Quota.ofBytes 5368709120)) "a"
        (partly belowZero (Quota.ofBytes 5368709120)) ∧
      Ordered belowZero ∧
      ¬Ordered (partly belowZero (Quota.ofBytes 5368709120)
        ((Remote.expand briefSession (narrowRealm belowZero (Quota.ofBytes 5368709120)) "a"
          5368709120 Validation.adminSecrets).outcome ⟨{}, false, false⟩).2.outside) := by
  refine ⟨narrowRealm_keepsQuotas ?_ (by decide +kernel) (by decide +kernel), by decide +kernel,
    by decide +kernel⟩
  rintro ⟨_ | _, _ | _⟩ <;> decide +kernel

end Enlargement

end RealmDriver
