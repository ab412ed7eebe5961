import ServedMedia.FileSystem

/-!
# What writing a file leaves alone

A write over a file changes what the file holds and nothing else, so all paths lead to
where they led before:

    SameShape a b → a.locate directory path = b.locate directory path        (locate_congr)
    fs.get? place = some (.file old) → SameShape (fs.put place (.file new)) fs
                                                                     (sameShape_put)

A text is the same again if its path leads to a place where nothing has changed
                                                                     (readText_congr).
-/

namespace ServedMedia.FileSystem

/-! ## Algorithm -/

/-- The node without what it holds. -/
def Node.shape : Node → Node
  | .file _ => .file .empty
  | node => node

/-- Two file systems differ in nothing but what their files hold. -/
def SameShape (a b : FileSystem) : Prop :=
  ∀ place, (a.get? place).map Node.shape = (b.get? place).map Node.shape

/-! ## Paths -/

section
variable {a b : FileSystem} (h : SameShape a b)
include h

/-- A step asks only whether there is a directory. -/
theorem follow_congr : a.follow = b.follow := by
  funext place segment
  have hplace := h place
  unfold follow
  cases ha : a.get? place with
  | none =>
    cases hb : b.get? place with
    | none => rfl
    | some node => simp [ha, hb] at hplace
  | some first =>
    cases hb : b.get? place with
    | none => simp [ha, hb] at hplace
    | some second => cases first <;> cases second <;> simp [ha, hb, Node.shape] at hplace <;> rfl

theorem locate_congr (directory : Place) (path : List Char) :
    a.locate directory path = b.locate directory path := by
  unfold locate
  rw [follow_congr h]

theorem readText_congr {directory : Place} {path : List Char}
    (hsame : ∀ place, b.locate directory path = .ok place → a.get? place = b.get? place) :
    a.readText directory path = b.readText directory path := by
  unfold readText
  rw [locate_congr h]
  cases hlocate : b.locate directory path with
  | error reason => rfl
  | ok place =>
    have hread : a.readAt place = b.readAt place := by
      rw [readAt, readAt, hsame place hlocate]
    show (a.readAt place >>= _) = (b.readAt place >>= _)
    rw [hread]

end

theorem readText_eq_ok_iff {fs : FileSystem} {directory : Place} {path : List Char}
    {text : String} : fs.readText directory path = .ok text ↔ ∃ place content,
      fs.locate directory path = .ok place ∧ fs.readAt place = .ok content ∧
        String.fromUTF8? content = some text := by
  unfold readText
  cases hlocate : fs.locate directory path with
  | error reason => simp [bind, Except.bind]
  | ok place =>
    cases hread : fs.readAt place with
    | error reason => simp [bind, Except.bind, hread]
    | ok content =>
      cases htext : String.fromUTF8? content <;>
        simp [bind, Except.bind, hread, htext, pure, Except.pure, throw, throwThe,
          MonadExceptOf.throw]

/-- A text that was written can be read. -/
theorem readText_of_file {fs : FileSystem} {directory place : Place} {path : List Char}
    {text : String} (hlocate : fs.locate directory path = .ok place)
    (hfile : fs.get? place = some (.file text.toUTF8)) :
    fs.readText directory path = .ok text := by
  refine readText_eq_ok_iff.2 ⟨place, text.toUTF8, hlocate, ?_, ?_⟩
  · rw [readAt, hfile]
  · simp [String.fromUTF8?, String.fromUTF8, text.isValidUTF8]

/-! ## Writes -/

theorem sameShape_put {fs : FileSystem} {place : Place} {old : ByteArray}
    (h : fs.get? place = some (.file old)) (new : ByteArray) :
    SameShape (fs.put place (.file new)) fs := by
  have hne : place ≠ [] := by
    rintro rfl
    simp [get?] at h
  intro other
  by_cases heq : other = place
  · rw [heq, get?_put_self fs hne, h]
    rfl
  · rw [get?_put_of_ne fs heq]

theorem writeText_of_file {fs : FileSystem} {directory place : Place} {path : List Char}
    {old : ByteArray} (hlocate : fs.locate directory path = .ok place)
    (h : fs.get? place = some (.file old)) (text : String) :
    fs.writeText directory path text = .ok (fs.put place (.file text.toUTF8)) := by
  unfold writeText
  rw [hlocate]
  show fs.writeAt place text.toUTF8 = _
  rw [writeAt, h]

/-- A text that is not empty comes from a file. -/
theorem exists_file_of_readText {fs : FileSystem} {directory : Place} {path : List Char}
    {text : String} (h : fs.readText directory path = .ok text) (hne : text ≠ "") :
    ∃ place old, fs.locate directory path = .ok place ∧ fs.get? place = some (.file old) := by
  obtain ⟨place, content, hlocate, hread, htext⟩ := readText_eq_ok_iff.1 h
  unfold readAt at hread
  cases hnode : fs.get? place with
  | none => simp [hnode] at hread
  | some node =>
    cases node with
    | file old => exact ⟨place, old, hlocate, hnode⟩
    | directory => simp [hnode] at hread
    | sink =>
      have hempty : String.fromUTF8? .empty = some "" := rfl
      obtain rfl : ByteArray.empty = content := by simpa [hnode] using hread
      exact absurd (Option.some.inj (htext.symm.trans hempty)) hne

end ServedMedia.FileSystem
