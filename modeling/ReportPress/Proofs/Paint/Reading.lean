import ReportPress.Paint.Component
import ReportPress.Proofs.Page.Surface
import ReportPress.Proofs.Record.Path
/-!
Failures for lack of a character. The one failure that is about the characters of a font is that of a text measured or
drawn with a font that does not have them. Reading a record, a style bag, the description of a table or an image may
fail in many ways, but not in this one.

- `Failure.isUnencodable`, `Legible`: that failure, and results that are not it.
- `legible_evalToken`, `legible_styleValue`: tokens and style entries.
- `legible_componentText`, `legible_readTable`, `legible_cellTexts`, `legible_imageSource`: what painters read.
- `Assets.legible_load`: images. `Canvas.legible_setFont`, `Canvas.legible_addFont`: fonts.
-/

namespace ReportPress

/-- the failure of a text with a character that the font at hand does not have -/
def Failure.isUnencodable : Failure → Bool
  | .unencodable .. => true
  | _ => false

/-- what is no failure of the drawing surface is not this one -/
theorem Failure.isUnencodable_of_not_drawing {f : Failure} (h : f.isDrawingFault = false) :
    f.isUnencodable = false := by
  cases f with
  | unencodable c i font => cases h
  | _ => rfl

/-- a result that is not for lack of a character -/
def Legible {α : Type} (r : Except Failure α) : Prop := ∀ f, r = .error f → f.isUnencodable = false

namespace Legible

variable {α β : Type}

theorem ok (a : α) : Legible (.ok a) := nofun

theorem error {f : Failure} (h : f.isUnencodable = false) : Legible (.error f : Except Failure α) := by
  rintro _ ⟨⟩
  exact h

theorem bind {x : Except Failure α} {k : α → Except Failure β} (hx : Legible x) (hk : ∀ a, Legible (k a)) :
    Legible (x >>= k) := by
  cases x with
  | ok a => exact hk a
  | error f => exact .error (hx f rfl)

theorem map {x : Except Failure α} (hx : Legible x) (g : α → β) : Legible (x.map g) := by
  cases x with
  | ok a => exact .ok (g a)
  | error f => exact .error (hx f rfl)

theorem ite {c : Prop} [Decidable c] {x y : Except Failure α} (hx : Legible x) (hy : Legible y) :
    Legible (if c then x else y) := by
  split
  · exact hx
  · exact hy

end Legible

theorem Failure.IsOfPath.isUnencodable {f : Failure} (h : f.IsOfPath) : f.isUnencodable = false := by
  cases h <;> rfl

/-! ## Records and style bags -/

section

theorem legible_resolve (v : Value) (path : String) : Legible (Record.resolve v path) := fun _ h =>
  (Record.resolve_error h).isUnencodable

theorem legible_eval {lookup : Expr.Lookup} (hlookup : ∀ path, Legible (lookup path)) (index : Option Int) (e : Expr) :
    Legible (Expr.eval lookup index e) := by
  induction e with
  | literal v => exact .ok _
  | path p => exact hlookup p
  | itemIndex =>
    unfold Expr.eval
    split
    · exact hlookup _
    · exact .ok _
  | compare left how right hleft hright =>
    unfold Expr.eval
    split
    · next f hf => exact .error (hleft f hf)
    · split
      · next f hf => exact .error (hright f hf)
      · exact .ok _
  | ternary condition whenTrue whenFalse hcondition htrue hfalse =>
    unfold Expr.eval
    split
    · next f hf => exact .error (hcondition f hf)
    · exact .ite htrue hfalse

variable (scope : Value) (index : Option Int)

theorem legible_evalToken (inside : String) : Legible (Record.evalToken inside scope index) := by
  unfold Record.evalToken
  dsimp only
  split
  · exact .ok _
  · split
    · exact legible_eval (legible_resolve scope) _ _
    · exact .ite (legible_resolve scope _) (.error rfl)

theorem legible_fill (pieces : List Record.Piece) : Legible (Record.fill scope index pieces) := by
  induction pieces with
  | nil => exact .ok _
  | cons piece rest ih =>
    cases piece with
    | plain c => exact ih.map _
    | token inside =>
      unfold Record.fill
      split
      · next f hf => exact .error (legible_evalToken scope index _ f hf)
      · exact ih.map _

theorem legible_substitute (s : String) : Legible (Record.substitute s scope index) :=
  (legible_fill scope index _).map _

theorem legible_styleValue (palette : Record.Palette) (v : Value) :
    Legible (Record.styleValue palette v scope index) := by
  unfold Record.styleValue
  split
  · split
    · split
      · exact (legible_evalToken scope index _).map _
      · exact (legible_substitute scope index _).map _
    · exact .ok _
  · exact .ok _

theorem legible_component (v : Value) : Legible (Rgb.component v) := by
  unfold Rgb.component
  split
  · exact .ok _
  · exact .ok _
  · split
    · exact .error rfl
    · exact .ok _
  · split
    · exact .ok _
    · exact .ok _
  · exact .ok _

theorem legible_readRgb (v : Value) (default : Option Rgb) : Legible (Rgb.read v default) := by
  unfold Rgb.read
  split
  · refine .map ?_ _
    refine (legible_component _).bind fun r => ?_
    split
    · exact .ok _
    · refine (legible_component _).bind fun g => ?_
      split
      · exact .ok _
      · refine (legible_component _).bind fun b => ?_
        split
        · exact .ok _
        · exact .ok _
  · exact .ok _
  · exact .ok _

theorem legible_unlessFinite {f : Failure} (hf : f.isUnencodable = false) (x : Float) : Legible (f.unlessFinite x) := by
  unfold Failure.unlessFinite
  split
  · exact .ok _
  · exact .error hf

theorem legible_ofInteger (n : Int) : Legible (Template.ofInteger n) := legible_unlessFinite rfl _

theorem legible_toNumber (v : Value) : Legible v.toNumber := by
  unfold Value.toNumber
  split
  · exact .ok _
  · exact legible_ofInteger _
  · exact .ok _
  · split
    · exact .ok _
    · exact .error rfl
  · exact .error rfl

theorem legible_styleNumber (v : Value) (default : Float) : Legible (styleNumber v default) :=
  .ite (legible_toNumber v) (.ok default)

theorem legible_colour (j : Job) (v : Value) (s : Spot) (default : Option Rgb) : Legible (j.colour v s default) := by
  unfold Job.colour
  split
  · exact .ok _
  · exact .ok _
  · exact (legible_styleValue s.scope s.index j.palette _).bind fun w => legible_readRgb w default

/-! ## What painters read -/

theorem legible_componentText (c : Component) (s : Spot) : Legible (Paint.componentText c s) := by
  refine .bind ?_ fun text => legible_substitute s.scope s.index text
  unfold Paint.sourceText
  dsimp only
  split
  · exact .ok _
  · refine .ite (.ok _) ((legible_resolve s.scope _).bind fun found => .ok _)

theorem legible_imageSource (c : Component) (s : Spot) : Legible (Paint.imageSource c s) := by
  unfold Paint.imageSource
  split
  case' h_1 => refine (legible_resolve s.scope _).bind fun bound => ?_
  case' h_2 => refine (Legible.ok none).bind fun bound => ?_
  -- bound or not, the source is read in the same way
  all_goals
    dsimp -zeta only
    extract_lets source
    clear_value source
    split
    · exact .ite ((legible_substitute s.scope s.index _).bind fun t => .ok _) (.ok _)
    · exact .ok _

theorem legible_number (v : Value) (field : String) (default : Float) : Legible (Template.number v field default) := by
  unfold Template.number
  split
  · exact .ok _
  · exact legible_ofInteger _
  · exact .ok _
  · split
    · exact .ok _
    · exact .error rfl
  · exact .error rfl

theorem legible_number? (v : Value) (field : String) : Legible (Template.number? v field) := by
  unfold Template.number?
  split
  · exact .ok _
  · exact (legible_number _ field 0.0).map _

theorem legible_mapItems {α : Type} {f : ℕ → Value → Except Failure α} (hf : ∀ i v, Legible (f i v)) (i : ℕ)
    (items : List Value) : Legible (Template.mapItems f i items) := by
  induction items generalizing i with
  | nil => exact .ok _
  | cons v rest ih => exact (hf i v).bind fun a => (ih (i + 1)).bind fun others => .ok _

theorem legible_readColumn (i : ℕ) (v : Value) : Legible (TableSpec.readColumn i v) := by
  have hfinish : ∀ c field, Legible (TableSpec.readColumn.finish i c field) := fun c field =>
    (legible_number? _ _).bind fun width => .ok _
  unfold TableSpec.readColumn
  split
  · split
    · exact hfinish _ _
    · exact hfinish _ _
    · exact .error rfl
  · exact .error rfl

theorem legible_readTable (content : Value) (height : Float) : Legible (TableSpec.read content height) := by
  unfold TableSpec.read
  split
  · split
    · exact .error rfl
    · exact (legible_mapItems legible_readColumn 0 _).bind fun columns => (legible_number? _ _).bind fun h => .ok _
    · exact .error rfl
  · exact .error rfl

theorem legible_cellTexts (row : Value) (columns : List Column) : Legible (Paint.cellTexts row columns) := by
  induction columns with
  | nil => exact .ok _
  | cons c rest ih =>
    have hcell : Legible (Paint.cellText row c) := .ite (.ok _) ((legible_resolve row _).map _)
    exact hcell.bind fun text => ih.bind fun texts => .ok _

/-! ## Images -/

theorem legible_prepare (octets : ByteArray) (bound : Option ℤ) (convert : Bool) :
    Legible (PreparedImage.prepare octets bound convert) := by
  unfold PreparedImage.prepare
  split
  · exact .ok _
  · next fault _ => cases fault <;> exact .error rfl

theorem legible_fetched (a : Assets) (name : String) (r : Reply) : Legible (a.fetched name r) := by
  refine .bind ?_ fun octets => legible_prepare octets _ true
  unfold Assets.received
  split
  · exact .error rfl
  · exact .error rfl
  · exact .error rfl
  · exact .ite (.error rfl) (.ok _)

theorem legible_decode (uri : String) : Legible (DataUri.decode uri) := by
  unfold DataUri.decode
  dsimp only
  split
  · exact .error rfl
  · refine .ite (.error rfl) (.ite (.error rfl) ?_)
    split
    · exact .ok _
    · exact .error rfl

/-- what is settled about an image before anyone is asked -/
theorem Assets.legible_seek (a : Assets) (v : Value) :
    match a.seek (.value v) with
    | .settled r => Legible r
    | .asks _ => True := by
  have hsource : ∀ source, match a.seekSource source with
      | .settled r => Legible r
      | .asks _ => True := by
    intro source
    cases source with
    | logo =>
      unfold seekSource
      cases a.logo with
      | none => exact .error rfl
      | some image => exact .ok image
    | inline uri => exact (legible_decode uri).bind fun octets => legible_prepare octets none false
    | web url =>
      unfold seekSource
      cases a.settings.allowRemote with
      | false => exact .error rfl
      | true => trivial
    | store path =>
      unfold seekSource
      cases a.fetchers.store.isSome with
      | false => exact .error rfl
      | true => trivial
  cases v with
  | string name =>
    unfold seek
    dsimp only
    cases Source.ofName name with
    | none => exact .error rfl
    | some source => exact hsource source
  | _ => exact .error rfl

/-- images may be anything, but what is wrong with one is never a text -/
theorem Assets.legible_load (a : Assets) (earlier : List Request) (v : Value) : Legible (a.loadAfter earlier v).1 := by
  have hseek := a.legible_seek v
  rw [loadAfter_eq]
  cases hfound : a.seek (.value v) with
  | settled r =>
    rw [hfound] at hseek
    exact hseek
  | asks r => exact legible_fetched a _ _

end

/-! ## The surface -/

theorem Canvas.legible_setFont (c : Canvas) (family style : String) (size : Float) :
    Legible (c.setFont family style size) := by
  unfold Canvas.setFont
  exact .ite (.ok _) (.ite (.ok _) (.error rfl))

/-- an image may be turned away, but not for its characters -/
theorem Canvas.legible_image (c : Canvas) (l : Library) (image : PreparedImage) (place : Point) (size : Size) :
    Legible (c.image l image place size) := by
  refine Legible.map ?_ _
  unfold Library.check
  split
  · next refusal _ => cases refusal <;> exact .error rfl
  · exact .ok ()

theorem Canvas.legible_addFont (c : Canvas) (files : Files) (family path : String) :
    Legible (c.addFont files family path) := by
  rcases c.addFont_spec files family path with ⟨fonts, hadd⟩ | ⟨f, hadd, hfault⟩
  · rw [hadd]
    exact .ok _
  · rw [hadd]
    exact .error (Failure.isUnencodable_of_not_drawing hfault)

/-- a colour may be out of range, but that is no matter of characters -/
theorem Canvas.legible_checkColour (rgb : Rgb) : Legible (Canvas.checkColour rgb) := by
  have hratio : ∀ n, Legible (Canvas.ratio n) := fun n => legible_unlessFinite rfl _
  have hcheck : ∀ x, Legible (Canvas.checkRatio x) := fun x => .ite (.ok ()) (.error rfl)
  unfold Canvas.checkColour
  refine .ite ((hratio _).bind hcheck) ?_
  refine (hratio _).bind fun r => (hratio _).bind fun g => (hratio _).bind fun b => ?_
  exact (hcheck r).bind fun _ => (hcheck g).bind fun _ => hcheck b

end ReportPress
