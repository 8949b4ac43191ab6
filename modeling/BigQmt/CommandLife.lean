import BigQmt.CommandFormat
import Mathlib.Logic.Relation
set_option autoImplicit false

/-!
The life of one command, after `formal/BridgeCommandProtocol.tla`: where its file is and
how many broker calls were made for it.
-/

namespace BigQmt

open Relation

structure CommandView where
  copies : List SpoolDir
  calls : Nat
  deriving DecidableEq, Repr

/-- One step of a command: `PublishNew`, `Claim`, the call before it is persisted, and the
end that it comes to. -/
inductive Life : CommandView → CommandView → Prop
  | publish : Life ⟨[],0⟩ ⟨[.inbox],0⟩
  | claim : Life ⟨[.inbox],0⟩ ⟨[.claimed],0⟩
  | execute : Life ⟨[.claimed],0⟩ ⟨[.claimed],1⟩
  | settle (n : Nat) (d : SpoolDir) (later : SpoolDir.claimed.rank < d.rank) :
      Life ⟨[.claimed],n⟩ ⟨[d],n⟩

/-- The command that was never published. -/
def CommandView.absent : CommandView := ⟨[],0⟩

/-- A view that a command comes to from its publication. -/
structure CommandView.Lived (v : CommandView) : Prop where
  single : v.copies.length ≤ 1
  unclaimed : v.calls ≠ 0 → ∃ d, v.copies = [d] ∧ 0 < d.rank
  once : v.calls ≤ 1

theorem Life.lived {v v' : CommandView} (h : Life v v') (hv : v.Lived) : v'.Lived := by
  cases h with
  | publish => exact ⟨by simp,by simp,by simp⟩
  | claim => exact ⟨by simp,by simp,by simp⟩
  | execute => exact ⟨by simp,fun _ => ⟨.claimed,rfl,by decide⟩,by simp⟩
  | settle n d later => exact ⟨by simp,fun _ => ⟨d,rfl,by omega⟩,hv.once⟩

theorem CommandView.Lived.absent : CommandView.absent.Lived :=
  ⟨by simp [CommandView.absent],by simp [CommandView.absent],by simp [CommandView.absent]⟩

theorem lived_of_reach {v v' : CommandView} (h : ReflTransGen Life v v') (hv : v.Lived) :
    v'.Lived := by
  induction h with
  | refl => exact hv
  | tail _ hstep ih => exact hstep.lived ih

/-- A command whose end has come stays as it is. -/
theorem life_settled {n : Nat} {d : SpoolDir} (hd : SpoolDir.claimed.rank < d.rank)
    {v : CommandView} (h : ReflTransGen Life ⟨[d],n⟩ v) : v = ⟨[d],n⟩ := by
  induction h with
  | refl => rfl
  | tail _ hstep ih =>
    subst ih
    cases hstep <;> simp [SpoolDir.rank] at hd

namespace CommandView.Lived

variable {v : CommandView} (h : v.Lived)
include h

theorem copies_eq {d : SpoolDir} (hd : d ∈ v.copies) : v.copies = [d] := by
  have hlen := h.single
  cases hc : v.copies with
  | nil => simp [hc] at hd
  | cons x rest =>
    rw [hc,List.length_cons] at hlen
    have hrest : rest = [] := List.eq_nil_of_length_eq_zero (by omega)
    rw [hc,hrest,List.mem_singleton] at hd
    rw [hrest,hd]

theorem uncalled_of_copies {d : SpoolDir} (hd : d ∈ v.copies) (hrank : d.rank = 0) :
    v = ⟨[d],0⟩ := by
  have hcopies := h.copies_eq hd
  by_cases hcalls : v.calls = 0
  · rw [← hcalls,← hcopies]
  · obtain ⟨d',hd',hlt⟩ := h.unclaimed hcalls
    have heq : [d] = [d'] := hcopies.symm.trans hd'
    simp only [List.cons.injEq,and_true] at heq
    rw [← heq] at hlt
    omega

theorem absent_of_nil (hd : v.copies = []) : v = CommandView.absent := by
  by_cases hcalls : v.calls = 0
  · rw [CommandView.absent,← hcalls,← hd]
  · obtain ⟨d',hd',-⟩ := h.unclaimed hcalls
    rw [hd] at hd'
    cases hd'

end CommandView.Lived

namespace Spool

theorem filter_all_eq {p : SpoolDir → Bool} {d : SpoolDir} (h : ∀ d', p d' = decide (d' = d)) :
    SpoolDir.all.filter p = [d] := by
  rw [List.filter_congr fun d' _ => h d']
  cases d <;> rfl

theorem copies_eq_singleton {s : Spool} {n : String} {d : SpoolDir} :
    s.copies n = [d] ↔ ∀ d', s.has d' n = decide (d' = d) := by
  constructor
  · intro h d'
    have hmem : d' ∈ s.copies n ↔ d' = d := by rw [h,List.mem_singleton]
    rw [mem_copies] at hmem
    by_cases hd : d' = d
    · subst hd
      simpa using hmem
    · simpa [hd] using fun hhas => hd (hmem.mp hhas)
  · exact filter_all_eq

theorem copies_congr {s s' : Spool} {n : String} (h : ∀ d, s'.has d n = s.has d n) :
    s'.copies n = s.copies n := List.filter_congr fun d _ => h d

theorem has_put (s : Spool) (d d' : SpoolDir) (n n' : String) (raw : Raw) :
    (s.put d n raw).has d' n' = if d' = d ∧ n' = n then true else s.has d' n' := by
  rw [has,lookup_put]
  split
  · rfl
  · rfl

theorem copies_put {s : Spool} {n : String} (h : s.copies n = []) (d : SpoolDir) (raw : Raw) :
    (s.put d n raw).copies n = [d] := by
  rw [copies_eq_singleton]
  intro d'
  rw [has_put,copies_eq_nil.mp h d']
  by_cases hd : d' = d <;> simp [hd]

theorem copies_put_other (s : Spool) (d : SpoolDir) {n n' : String} (raw : Raw) (h : n' ≠ n) :
    (s.put d n raw).copies n' = s.copies n' :=
  copies_congr fun d' => by simp [has_put,h]

variable {s s' : Spool} {source target : SpoolDir} {n : String}

theorem source_of_move (h : s.move source target n = some s') : source ∈ s.copies n := by
  rw [mem_copies,← @move_isSome s source target n,h]
  rfl

theorem copies_move (h : s.move source target n = some s') (hne : source ≠ target)
    (hone : s.copies n = [source]) : s'.copies n = [target] := by
  rw [copies_eq_singleton] at hone ⊢
  intro d
  rw [has_move h hne,hone d]
  by_cases hd : d = target
  · simp [hd]
  · by_cases hs : d = source <;> simp [hd,hs]

theorem copies_move_other (h : s.move source target n = some s') (hne : source ≠ target)
    {n' : String} (hn : n' ≠ n) : s'.copies n' = s.copies n' :=
  copies_congr fun d => by simp [has_move h hne,hn]

end Spool

def World.callsOf (w : World) (id : String) : Nat :=
  w.brokerCalls.countP (fun call => call.commandId = id)

/-- What there is to see of a command. -/
def World.command (w : World) (id : String) : CommandView := ⟨w.spool.copies id,w.callsOf id⟩

/-- A file holds the frame of the command that it is named after. -/
def Framed (s : Spool) : Prop :=
  ∀ d n raw, s.lookup d n = some raw → ∀ account command,
    Bridge.readCommandFrame account raw = .ok command → command.commandId = n

/-- What the Bridge reads in a frame of the Host is the command of its own account. -/
theorem Bridge.readCommandFrame_encoded {c : QmtCommand} {raw : Raw}
    (h : encodeCommandFrame c = .ok raw) {account : String} {command : Bridge.Command}
    (hread : Bridge.readCommandFrame account raw = .ok command) :
    account = c.accountFingerprint ∧ command =
      ⟨c.commandId,c.commandType,c.expiresMs,c.accountFingerprint,c.brokerToken,c.payload⟩ := by
  obtain ⟨hvalid,rfl,hsize⟩ := encodeCommandFrame_ok h
  have haccount : account = c.accountFingerprint := by
    unfold Bridge.readCommandFrame at hread
    obtain ⟨members,hframe,hread⟩ := Except.ok_of_bind hread
    rw [Bridge.frameCommand_frame hsize,Except.ok.injEq] at hframe
    subst hframe
    obtain ⟨_,-,hread⟩ := Except.ok_of_bind hread
    obtain ⟨_,-,hread⟩ := Except.ok_of_bind hread
    obtain ⟨_,-,hread⟩ := Except.ok_of_bind hread
    obtain ⟨_,-,hread⟩ := Except.ok_of_bind hread
    obtain ⟨_,-,hread⟩ := Except.ok_of_bind hread
    obtain ⟨_,hsame,-⟩ := Except.ok_of_bind hread
    have hget : (c.members.get "account_fingerprint") = some (.text c.accountFingerprint) := rfl
    have hread : c.accountFingerprint = account := by simpa [hget] using hsame
    exact hread.symm
  subst haccount
  rw [Bridge.readCommandFrame_frame hsize (identified_of_validate hvalid),Except.ok.injEq] at hread
  exact ⟨rfl,hread.symm⟩

theorem Bridge.readCommandFrame_id {c : QmtCommand} {raw : Raw} (h : encodeCommandFrame c = .ok raw)
    {account : String} {command : Bridge.Command}
    (hread : Bridge.readCommandFrame account raw = .ok command) : command.commandId = c.commandId := by
  obtain ⟨-,rfl⟩ := Bridge.readCommandFrame_encoded h hread
  rfl

end BigQmt
