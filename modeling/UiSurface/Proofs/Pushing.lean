import UiSurface.Device.Client
import UiSurface.Proofs.Live
import UiSurface.Proofs.Saving

/-!
# A saved design on its way to the devices

A design is pushed as one text to every device whose socket works.  The client on a device applies the
messages one by one to a store that has a past; the preview folds the batch into an empty store.  On the
way the two may differ, for what comes before the surface is created is refused by the one store and
applied by the other.  In the end they agree: the surface is created once more, and from there on both
see the same messages.

Main lemmas: `Registry.deliverAll_wire` (who is sent a text), `Client.take_frame` (what a client does
with a design), `Service.device_shows_preview`.
-/

namespace UiSurface

/-! ## Sending -/

/-- A text goes to the devices whose sockets work, once to each and in order. -/
theorem Registry.deliverAll_wire (r : Registry) (w : Wire) (text : String)
    (devices : List (String × Device)) :
    (r.deliverAll w text devices).2.1 =
      { w with
        sent := w.sent ++ (devices.filter fun e => w.works e.2.socket).map
          fun e => (e.2.socket, text) } := by
  induction devices generalizing r w with
  | nil => simp [deliverAll]
  | cons e devices ih =>
    obtain ⟨id, device⟩ := e
    cases hworks : w.works device.socket with
    | true =>
      have hsend : w.send device.socket text = { w with sent := w.sent ++ [(device.socket, text)] } :=
        if_pos hworks
      simp only [deliverAll, deliver, hworks, if_true, ih, hsend, List.filter_cons, List.map_cons,
        List.append_assoc, List.singleton_append]
      rfl
    | false =>
      simp only [deliverAll, deliver, hworks, Bool.false_eq_true, if_false, ih, List.filter_cons]

/-- The frame that carries a design. -/
def Design.frame (d : Design) : Json :=
  .obj [("type", .str "a2ui_messages"), ("messages", d.batch)]

/-- A design that is pushed without an overlay goes out as its frame. -/
theorem Service.sent_pushDesign {s : Service} {d : Design}
    (h : s.storage.get? d.id = .ok (some d)) :
    (s.pushDesign ⟨d.id, []⟩).1.wire.sent = s.wire.sent ++
      (s.registry.filter fun e => s.wire.works e.2.socket).map
        fun e => (e.2.socket, d.frame.toText) := by
  have hpush : (s.pushDesign ⟨d.id, []⟩).1.wire =
      (s.registry.deliverAll s.wire d.frame.toText s.registry).2.1 := by
    simp only [pushDesign, h]
    rfl
  rw [hpush, Registry.deliverAll_wire]

/-! ## Taking -/

/-- A client that reads the frame of a design takes its batch live. -/
theorem Client.take_frame (c : Client) {d : Design} {text : String}
    (h : Json.ofText text = .ok d.frame) :
    c.take text = .ok { c with
      store := (c.store.applyLive d.batch).1
      reports := c.reports ++ [(c.store.applyLive d.batch).2] } := by
  simp only [take, h]
  rfl

namespace Service

/-- What the preview shows is what the device gets.  A design that was saved folds to a surface.  Its
push sends one text to every device whose socket works, and a client that takes the text skips no
message and then has that very surface under the id of the design, whatever its store held before. -/
theorem device_shows_preview {s : Service} {d : Design} {c : Client}
    (haccepted : d.Accepted s.acceptsOverlay) (hstored : s.storage.get? d.id = .ok (some d))
    (hread : Json.ofText d.frame.toText = .ok d.frame) (hopen : c.store.disposed = false)
    (hsettings : c.store.acceptsOverlay = s.acceptsOverlay) :
    ∃ preview next report, d.fold s.acceptsOverlay = .ok preview ∧
      (s.pushDesign ⟨d.id, []⟩).1.wire.sent = s.wire.sent ++
        (s.registry.filter fun e => s.wire.works e.2.socket).map
          (fun e => (e.2.socket, d.frame.toText)) ∧
      c.take d.frame.toText = .ok next ∧ next.reports = c.reports ++ [report] ∧
      report.skipped = [] ∧ next.store.surface? d.id = some preview := by
  obtain ⟨hsound, -, ms, preview, hms, hcreate, hpreview, hfold⟩ := haccepted.exists_fold
  have hincremental := Validation.hasStructural_incremental (hasStructural_of_eq_nil hsound)
  obtain ⟨vs, taken, hvs, htaken, hlive⟩ := c.store.applyLive_eq_of_sound hincremental
  obtain rfl := Json.arr.inj hvs
  obtain rfl : taken = ms := Except.ok.inj (htaken.symm.trans hms)
  refine ⟨preview, _, _, hfold, sent_pushDesign hstored, c.take_frame hread, rfl, ?_, ?_⟩
  · rw [hlive]
  · calc (c.store.applyLive d.batch).1.surface? d.id
        = (c.store.applyAll taken).1.surface? d.id := by rw [hlive]
      _ = ((Store.empty s.acceptsOverlay).applyAll taken).1.surface? d.id :=
        Store.surface?_applyAll_of_create rfl hopen hsettings hcreate
      _ = some preview := hpreview

/-- A design whose first message is lost on the preview and applied on the device, which shows the
surface already. -/
theorem device_shows_preview_of_tile :
    let d : Design := ⟨"tile",
      [[("updateDataModel",
          .obj [("surfaceId", .str "tile"), ("path", .str "/x"), ("value", .str "1")])],
       [("createSurface", .obj [("surfaceId", .str "tile")])],
       [("updateComponents", .obj [("surfaceId", .str "tile"),
          ("components", .arr [.obj [("id", .str "root"), ("component", .str "Text")]])])]]⟩
    let s : Service := ⟨.shelf [("tile", d)], [("phone", ⟨"ios", "socket"⟩)], Wire.empty, [], false,
      ⟨2026, 10, 19, 15, 7⟩, ""⟩
    let c : Client := .new "ios" "phone" 10 (.int 30)
      ((Store.empty false).applyAll [.createSurface "tile" .null .null [],
        .updateDataModel "tile" (.write (some "/y") (.str "2"))]).1
    d.Accepted s.acceptsOverlay ∧ s.storage.get? d.id = .ok (some d) ∧
      Json.ofText d.frame.toText = .ok d.frame ∧ c.store.disposed = false ∧
      c.store.acceptsOverlay = s.acceptsOverlay ∧
      ∃ preview next report, d.fold s.acceptsOverlay = .ok preview ∧
        (s.pushDesign ⟨d.id, []⟩).1.wire.sent = s.wire.sent ++
          (s.registry.filter fun e => s.wire.works e.2.socket).map
            (fun e => (e.2.socket, d.frame.toText)) ∧
        c.take d.frame.toText = .ok next ∧ next.reports = c.reports ++ [report] ∧
        report.skipped = [] ∧ next.store.surface? d.id = some preview := by
  intro d s c
  have haccepted : d.Accepted s.acceptsOverlay := by
    refine ⟨none, Design.saveProblems_eq_nil_iff.mpr ⟨by decide +kernel, ?_⟩, by decide +kernel⟩
    exact Design.gateProblems_eq_nil_iff.mpr ⟨1, "tile", [], _, by decide +kernel,
      by decide +kernel, by decide +kernel, rfl, rfl, by decide +kernel⟩
  have hstored : s.storage.get? d.id = .ok (some d) := rfl
  have hread : Json.ofText d.frame.toText = .ok d.frame := by
    rw [← Fallible.toOption_eq_some_iff, Json.ofText]
    -- the text is taken apart before it is read, for joining it is slow
    simp only [d, Design.frame, Design.batch, Json.toText, Json.memberTexts, Json.itemTexts,
      Json.quoted, List.map_cons, List.map_nil, String.intercalate_cons_cons,
      String.intercalate_singleton, String.toList_append, String.toList_ofList]
    decide +kernel
  have hopen : c.store.disposed = false := by decide +kernel
  have hsettings : c.store.acceptsOverlay = s.acceptsOverlay := by decide +kernel
  exact ⟨haccepted, hstored, hread, hopen, hsettings,
    device_shows_preview haccepted hstored hread hopen hsettings⟩

end Service

end UiSurface
