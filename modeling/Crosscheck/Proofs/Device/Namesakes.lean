import Crosscheck.Device.Wire
import Crosscheck.Proofs.Compare
import Crosscheck.Proofs.Device.Outputs

/-!
# Crosscheck.Proofs.Device.Namesakes

**Returned buffers that share a name.** A device behind the wire looks for the buffer of each shape in the
list of all that were returned, and so finds the first one of its name (`checkRemote_eq_ok_iff`). A device
that is called directly loses a buffer to each shape, and the last buffer moves into the gap. Each shape is
still answered by a buffer of its name, but by the first one of what is left when its turn has come
(`checkOutputs_eq_mapM_turns`), and a second buffer of the name may have moved in front of the first one
(`checkOutputs_overtaken`). The two devices agree if the buffers of no name that is asked for can change
their order, which is what `Settled` says, and in general if each turn comes to the same as at the beginning
(`checkOutputs_namesakes`).
-/

namespace Crosscheck

variable {specs : List BufferSpec} {spec : BufferSpec} {returned outputs : List Buffer}

/-! ### Directly -/

/-- The shapes, each with what is left of the returned buffers when its turn has come. -/
def turns : List BufferSpec → List Buffer → List (BufferSpec × List Buffer)
  | [], _ => []
  | spec :: specs, returned =>
    (spec, returned) :: turns specs (takeOut (returned.findIdx (·.name == spec.name)) returned)

theorem map_fst_turns (specs : List BufferSpec) (returned : List Buffer) :
    (turns specs returned).map Prod.fst = specs := by
  induction specs generalizing returned with
  | nil => rfl
  | cons spec specs ih => rw [turns, List.map_cons, ih]

/-- **Each shape is answered from what is left when its turn has come.** -/
theorem checkOutputs_eq_mapM_turns (specs : List BufferSpec) (returned : List Buffer) :
    checkOutputs specs returned = (turns specs returned).mapM fun turn => turn.1.answer turn.2 := by
  induction specs generalizing returned with
  | nil => rfl
  | cons spec specs ih =>
      rw [checkOutputs_cons, turns, List.mapM_cons, ih]
      rfl

/-- Whatever is left when its turn has come, a shape is answered by a returned buffer of its name. -/
theorem forall₂_of_checkOutputs (h : checkOutputs specs returned = .ok outputs) :
    List.Forall₂ (fun spec output => ∃ b ∈ returned, b.name = spec.name ∧ b.length = spec.length ∧
      output = Buffer.ofWords spec.name spec.type b.data) specs outputs := by
  induction specs generalizing returned outputs with
  | nil =>
      obtain rfl : [] = outputs := Except.ok.inj h
      exact .nil
  | cons spec specs ih =>
      rw [checkOutputs_cons] at h
      obtain ⟨output, hanswer, h⟩ := Except.bind_eq_ok.1 h
      obtain ⟨rest, hrest, h⟩ := Except.bind_eq_ok.1 h
      obtain rfl : output :: rest = outputs := Except.ok.inj h
      obtain ⟨b, hfound, hlength, houtput⟩ := BufferSpec.answer_eq_ok_iff_find?.1 hanswer
      obtain ⟨gone, hgone, -⟩ := exists_taken hanswer
      refine .cons ⟨b, List.mem_of_find?_eq_some hfound, by simpa using List.find?_some hfound, hlength,
        houtput⟩ ((ih hrest).imp ?_)
      rintro s o ⟨c, hc, hrest⟩
      exact ⟨c, (takeOut_perm hgone).subset (List.mem_cons_of_mem gone hc), hrest⟩

/-! ### Over the wire -/

/-- What comes of returned buffers that are sent over the wire, read back for the shapes and checked. -/
def checkRemote (specs : List BufferSpec) (returned : List Buffer) :
    Except ExecutionFailure (List Buffer) := do
  let buffers ← (WireResponse.ofBuffers returned).toBuffers specs
  checkOutputs specs buffers

/-- **Over the wire each shape is answered from all returned buffers.** -/
theorem checkRemote_eq_ok_iff (hspecs : (specs.map (·.name)).Nodup) :
    checkRemote specs returned = .ok outputs ↔ specs.mapM (·.answer returned) = .ok outputs := by
  by_cases hall : ∀ spec ∈ specs, ∃ b, returned.find? (·.name == spec.name) = some b
  · -- what is read back, with no words where nothing was found
    let found := fun spec : BufferSpec => Buffer.ofWords spec.name spec.type
      (((returned.find? (·.name == spec.name)).map (·.data)).getD [])
    have hbuffers : (WireResponse.ofBuffers returned).toBuffers specs = .ok (specs.map found) := by
      refine Except.mapM_eq_ok fun spec hspec => ?_
      obtain ⟨b, hb⟩ := hall spec hspec
      simp only [WireResponse.bufferFor_ofBuffers, found, hb, Option.map_some, Option.getD_some]
    have hnames : ((specs.map found).map (·.name)).Nodup := by
      rwa [List.map_map]
    have hanswer : ∀ spec ∈ specs, spec.answer (specs.map found) = spec.answer returned := by
      intro spec hspec
      obtain ⟨b, hb⟩ := hall spec hspec
      have hfound : found spec = Buffer.ofWords spec.name spec.type b.data := by
        simp only [found, hb, Option.map_some, Option.getD_some]
      have hlength : (found spec).length = b.length := by
        rw [hfound, Buffer.length_ofWords, Buffer.length]
      rw [BufferSpec.answer_of_mem hnames (List.mem_map_of_mem hspec) rfl, hlength, hfound]
      simp only [BufferSpec.answer, hb, Buffer.ofWords_data, BufferSpec.check]
      split <;> rfl
    rw [checkRemote, hbuffers, Except.ok_bind, checkOutputs_eq_mapM hspecs hnames,
      Except.mapM_congr hanswer]
  · -- a shape without a buffer fails both ways
    simp only [not_forall, not_exists] at hall
    obtain ⟨spec, hspec, hnone⟩ := hall
    have habsent : returned.find? (·.name == spec.name) = none :=
      Option.eq_none_iff_forall_ne_some.2 hnone
    constructor
    · intro h
      obtain ⟨buffers, hbuffers, -⟩ := Except.bind_eq_ok.1 h
      obtain ⟨b, hb⟩ := Except.exists_mapM_eq_ok_iff.1 ⟨buffers, hbuffers⟩ spec hspec
      rw [WireResponse.bufferFor_ofBuffers, habsent] at hb
      cases hb
    · intro h
      obtain ⟨o, ho⟩ := Except.exists_mapM_eq_ok_iff.1 ⟨outputs, h⟩ spec hspec
      rw [BufferSpec.answer, habsent] at ho
      cases ho

/-! ### Both -/

/-- **Where a name is carried by several buffers.** Let no two shapes have one name. Over the wire each shape
is answered by the first returned buffer of its name. Directly each is answered by a returned buffer of its
name too, and by the same ones as over the wire just if no turn comes to something else than it would have
come to at the beginning. That is so if the returned buffers of no name asked for can change their order
before its turn: then either way succeeds just if the other one does, with the same outputs. -/
theorem checkOutputs_namesakes {specs : List BufferSpec} {returned : List Buffer}
    (hspecs : (specs.map (·.name)).Nodup) :
    (∀ outputs, checkRemote specs returned = .ok outputs ↔
      List.Forall₂ (fun spec output => ∃ b, returned.find? (·.name == spec.name) = some b ∧
        b.length = spec.length ∧ output = Buffer.ofWords spec.name spec.type b.data) specs outputs) ∧
    (∀ outputs, checkOutputs specs returned = .ok outputs →
      List.Forall₂ (fun spec output => ∃ b ∈ returned, b.name = spec.name ∧ b.length = spec.length ∧
        output = Buffer.ofWords spec.name spec.type b.data) specs outputs ∧
      (checkRemote specs returned = .ok outputs ↔
        ∀ turn ∈ turns specs returned, turn.1.answer returned = turn.1.answer turn.2)) ∧
    ((∀ k spec, specs[k]? = some spec → Settled k spec.name returned) →
      ∀ outputs, checkOutputs specs returned = .ok outputs ↔ checkRemote specs returned = .ok outputs) := by
  refine ⟨fun outputs => ?_, fun outputs h => ⟨forall₂_of_checkOutputs h, ?_⟩, fun hsettled outputs => ?_⟩
  · simp only [checkRemote_eq_ok_iff hspecs, Except.mapM_eq_ok_iff, BufferSpec.answer_eq_ok_iff_find?]
  · rw [checkOutputs_eq_mapM_turns] at h
    have hremote : specs.mapM (·.answer returned) =
        (turns specs returned).mapM fun turn => turn.1.answer returned := by
      conv_lhs => rw [← map_fst_turns specs returned, List.mapM_map]
      rfl
    rw [checkRemote_eq_ok_iff hspecs, hremote, Except.mapM_eq_ok_congr_iff h]
  · rw [checkRemote_eq_ok_iff hspecs, checkOutputs_remaining hspecs hsettled fun _ _ => rfl]

/-- Two buffers of the second name, neither of them the last one, which moves in front of them. -/
theorem checkOutputs_namesakes_kept :
    let u32 := ElementType.ofWidth "u32" 32 .unsigned
    let specs := [⟨"sum", u32, 1⟩, ⟨"carry", u32, 1⟩]
    let returned := [⟨"sum", u32, [1]⟩, ⟨"carry", u32, [2]⟩, ⟨"carry", u32, [3]⟩, ⟨"trace", u32, []⟩]
    (specs.map BufferSpec.name).Nodup ∧
      (∀ k spec, specs[k]? = some spec → Settled k spec.name returned) ∧
      checkRemote specs returned = .ok [⟨"sum", u32, [1]⟩, ⟨"carry", u32, [2]⟩] ∧
      checkOutputs specs returned = .ok [⟨"sum", u32, [1]⟩, ⟨"carry", u32, [2]⟩] := by
  intro u32 specs returned
  have hspecs : (specs.map BufferSpec.name).Nodup := by decide
  have hsettled : ∀ k spec, specs[k]? = some spec → Settled k spec.name returned := by
    intro k spec hspec
    match k, hspec with
    | 0, hspec =>
        obtain rfl := Option.some.inj hspec
        exact .inl (by decide)
    | 1, hspec =>
        obtain rfl := Option.some.inj hspec
        exact .inr (by decide)
  obtain ⟨hremote, -, hsame⟩ := @checkOutputs_namesakes specs returned hspecs
  have hboth : checkRemote specs returned = .ok [⟨"sum", u32, [1]⟩, ⟨"carry", u32, [2]⟩] :=
    (hremote _).2 (.cons ⟨⟨"sum", u32, [1]⟩, by decide, rfl, by decide⟩
      (.cons ⟨⟨"carry", u32, [2]⟩, by decide, rfl, by decide⟩ .nil))
  exact ⟨hspecs, hsettled, hboth, (hsame hsettled _).2 hboth⟩

/-- The last of three buffers moves in front of the second one, which has the same name. -/
theorem checkOutputs_overtaken :
    let u32 := ElementType.ofWidth "u32" 32 .unsigned
    let specs := [⟨"sum", u32, 1⟩, ⟨"carry", u32, 1⟩]
    let returned := [⟨"sum", u32, [1]⟩, ⟨"carry", u32, [2]⟩, ⟨"carry", u32, [3]⟩]
    (specs.map BufferSpec.name).Nodup ∧
      checkOutputs specs returned = .ok [⟨"sum", u32, [1]⟩, ⟨"carry", u32, [3]⟩] ∧
      checkRemote specs returned = .ok [⟨"sum", u32, [1]⟩, ⟨"carry", u32, [2]⟩] ∧
      returned.find? (·.name == "carry") = some ⟨"carry", u32, [2]⟩ := by
  decide +kernel

end Crosscheck
