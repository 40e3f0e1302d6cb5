import Gazetteer.Encoding.Settings

/-!
# Training that fails

What is built on an encoder stays meaningful only as long as the encoder encodes as it did. A
training that succeeds changes that openly. One that fails must not change it: `KeepsOnFailure`
says so of an encoder type, and the encoders of this library have the property because a training
that is refused leaves them as they were.

`TableEncoder` is the smallest encoder there is, for trying out laws that hold over every encoder.
-/

set_option autoImplicit false

namespace Gazetteer

/-- Encoders of this type encode as before when a training fails. -/
def KeepsOnFailure (ε : Type) [TextEncoder ε] : Prop :=
  ∀ (encoder : ε) (texts : List String) (o : TrainingOptions) (e : EncoderError),
    (TextEncoder.train encoder texts o).result = .error e →
      ∀ text, TextEncoder.encode (TextEncoder.train encoder texts o).state text =
        TextEncoder.encode encoder text

/-! ## The encoders of this library -/

theorem BucketEncoder.trainOn_state_of_error {encoder : BucketEncoder} {documents : List String}
    {o : TrainingOptions} {e : EncoderError} (h : (encoder.trainOn documents o).result = .error e) :
    (encoder.trainOn documents o).state = encoder := by
  unfold trainOn at h ⊢
  split
  · rfl
  · rename_i hfault
    rw [hfault] at h
    cases h

theorem PartsEncoder.train_state_of_error {encoder : PartsEncoder} {texts : List String}
    {o : TrainingOptions} {e : EncoderError} (h : (encoder.train texts o).result = .error e) :
    (encoder.train texts o).state = encoder := by
  unfold train at h ⊢
  simp only [BucketEncoder.trainOn_state_of_error h]

theorem Encoder.train_state_of_error {encoder : Encoder} {texts : List String}
    {o : TrainingOptions} {e : EncoderError} (h : (encoder.train texts o).result = .error e) :
    (encoder.train texts o).state = encoder := by
  cases encoder with
  | whole encoder => exact congrArg whole (BucketEncoder.trainOn_state_of_error h)
  | parts encoder => exact congrArg parts (PartsEncoder.train_state_of_error h)

theorem keepsOnFailure_encoder : KeepsOnFailure Encoder :=
  fun _ _ _ _ h text =>
    congrArg (fun state => TextEncoder.encode state text) (Encoder.train_state_of_error h)

/-! ## Encoding by table -/

/-- A table of texts and their vectors. Other texts are refused, and there is nothing to learn. -/
structure TableEncoder where
  width : Nat
  rows : List (String × DenseVector)

instance : TextEncoder TableEncoder where
  dimensions e := e.width
  isReady _ := true
  encode e text :=
    match e.rows.lookup text with
    | some vector => .ok vector
    | none => .error .untrained
  train e texts o :=
    match o.fault? with
    | some fault => .refuse e (.invalid fault)
    | none => ⟨e, [], .ok ⟨texts.length, 0, 0⟩⟩

theorem keepsOnFailure_tableEncoder : KeepsOnFailure TableEncoder := by
  intro encoder texts o e _ text
  simp only [TextEncoder.train]
  split <;> rfl

end Gazetteer
