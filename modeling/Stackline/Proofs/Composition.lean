import Stackline.Proofs.Source.Append
import Stackline.Proofs.Statement.Print

/-!
Programs that succeed compose. A program that runs to its end leaves nothing behind but its output,
so a program that is put behind it runs as if it stood alone, only displaced.
-/

namespace Stackline

namespace Store

/--
No more was written than the store holds.
-/
def Fits (store : Store) : Prop :=
  ∀ limit, store.limit? = some limit → store.written.size ≤ limit

theorem fits_empty (limit? : Option Nat) : (empty limit?).Fits := by
  intro limit _
  exact Nat.zero_le limit

theorem fits_write {store : Store} (h : store.Fits) (bytes : List UInt8) :
    (Sink.write store bytes).1.Fits := by
  intro limit hlimit
  rw [limit?_write] at hlimit
  have hsize := h limit hlimit
  have hwritten := congrArg List.length (toList_written_write store bytes)
  simp only [room, hlimit, List.length_append, List.length_take, Array.length_toList] at hwritten
  omega

theorem shift_empty {store : Store} (h : store.Fits) (lines bytes : Nat) :
    (empty (store.limit?.map (· - store.written.size))).shift ⟨lines, bytes, store.written⟩ =
      store := by
  obtain ⟨written, limit?⟩ := store
  cases limit? with
  | none => simp [shift, empty]
  | some limit =>
    have hsize : written.size ≤ limit := h limit rfl
    have hlimit : limit - written.size + written.size = limit := by omega
    simp [shift, empty, hlimit]

end Store

theorem Block.fits_exec (block : Block) (state : State Store) (h : state.sink.Fits) :
    (block.exec state).state.sink.Fits := by
  refine block.sink_exec_invariant (P := Store.Fits) ?_ h
  intro sink bytes hsink
  exact Store.fits_write hsink bytes

theorem start_sink_of_run {source : Text} {limit? : Option Nat} {printed : Array UInt8}
    (h : (run source (Store.empty limit?)).fault? = none)
    (hprinted : (run source (Store.empty limit?)).state.sink.written = printed) :
    State.start (run source (Store.empty limit?)).state.sink =
      (State.start (Store.empty (limit?.map (· - printed.size)))).shift
        (Source.displacement source printed) := by
  -- the sink is the only trace of the run: its limit stays, and what was written is within it
  have hlimit := (Source.block source).limit?_exec (State.start (Store.empty limit?))
  have hfits := (Source.block source).fits_exec (State.start (Store.empty limit?))
    (Store.fits_empty limit?)
  rw [exec_of_run h] at hlimit hfits
  generalize (run source (Store.empty limit?)).state.sink = sink at *
  have hshift := Store.shift_empty hfits (Source.lines source).length source.byteLength
  subst hprinted
  simp only [State.start, Store.empty] at hlimit hshift
  simp only [State.start, State.shift, Source.displacement, Store.empty, ← hlimit, hshift]
  rfl

theorem run_append {s t : Text} {limit? : Option Nat} {printed : Array UInt8}
    (hs : Source.IsWhole s) (hrun : (run s (Store.empty limit?)).fault? = none)
    (hprinted : (run s (Store.empty limit?)).state.sink.written = printed)
    (ht : Source.WellFormed t) :
    run (s ++ t) (Store.empty limit?) =
      (run t (Store.empty (limit?.map (· - printed.size)))).shift
        (Source.displacement s printed) := by
  have hst := (Source.wellFormed_append hs t).2 ⟨wellFormed_of_run hrun, ht⟩
  rw [run_eq_exec hst, run_eq_exec ht]
  rw [Source.block_append hs t printed, Source.position_endToken_append hs t printed]
  rw [Block.exec_append, exec_of_run hrun, Outcome.mk_none_andThen]
  rw [start_sink_of_run hrun hprinted, Block.exec_shift]
  apply Outcome.andThen_map
  intro state
  apply State.finish_shift

/--
A program that is put behind one that succeeds prints behind the output of the other, and succeeds
or fails as it does alone. If it fails, the fault is of the same kind, and only the places that it
points at are displaced by the lines and bytes of the other program. In a bounded store it has the
room that the other program leaves.
-/
theorem run_append_of_success (s t : Text) (limit? : Option Nat) (hs : Source.IsWhole s)
    (hrun : (run s (Store.empty limit?)).fault? = none) (ht : ∃ tokens, Source.lex t = .ok tokens) :
    let printed := (run s (Store.empty limit?)).state.sink.written
    let rest := run t (Store.empty (limit?.map (· - printed.size)))
    let whole := run (s ++ t) (Store.empty limit?)
    let d := Source.displacement s printed
    whole.state.sink.written = printed ++ rest.state.sink.written ∧
      (whole.fault? = none ↔ rest.fault? = none) ∧
      ∀ fault, rest.fault? = some fault →
        ∃ fault', whole.fault? = some fault' ∧ fault'.code = fault.code ∧
          fault'.position? = fault.position?.map (Position.shift d) ∧
          fault'.labels = fault.labels.map (Label.shift d) := by
  intro printed rest whole d
  obtain ⟨tokens, htokens⟩ := ht
  have hwhole : whole = rest.shift d :=
    run_append hs hrun rfl (Source.lex_eq_ok_iff.1 htokens).1
  refine ⟨?_, ?_, ?_⟩
  · rw [hwhole]
    rfl
  · rw [hwhole]
    exact Option.map_eq_none_iff
  · intro fault hfault
    refine ⟨fault.shift d, ?_, fault.code_shift d, fault.position?_shift d, fault.labels_shift d⟩
    rw [hwhole, Outcome.shift, Outcome.fault?_map, hfault]
    rfl

theorem run_append_of_success_leftover :
    ∃ fault, (run ("var int x\nmove x 5\nprint x\ndrop x\n".toList ++
        "push int 2\nprint\nvar int y\n".toList) (Store.empty none)).fault? = some fault ∧
      fault.code = "scry::runtime" ∧ fault.position? = some ⟨7, ⟨61, 0⟩⟩ ∧
      fault.labels = [⟨"here", ⟨61, 0⟩⟩, ⟨"`y` declared here", ⟨51, 9⟩⟩] := by
  have h := run_append_of_success "var int x\nmove x 5\nprint x\ndrop x\n".toList
    "push int 2\nprint\nvar int y\n".toList none (.inr rfl) (by decide +kernel) ⟨_, rfl⟩
  obtain ⟨fault, hwhole, hcode, hposition, hlabels⟩ := h.2.2 _ rfl
  refine ⟨fault, hwhole, ?_, ?_, ?_⟩
  · rw [hcode]
    rfl
  · rw [hposition]
    decide +kernel
  · rw [hlabels]
    decide +kernel

end Stackline
