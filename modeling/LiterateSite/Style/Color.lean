import LiterateSite.Style.Amount

/-!
# Colours

* `Color`: red, green and blue, and how much of what is below they cover.
* `named?`, `ofHash?`, `ofFunction?`: colours by name, by digits and by amounts.
* `shortest`: the shortest text of a colour.
-/

namespace LiterateSite.Style

open Text

/-- A colour: the number that its hexadecimal digits write, and its opacity, 255 at most. -/
structure Color where
  rgb : Nat
  alpha : Nat := 255
  deriving DecidableEq, Repr, Inhabited

namespace Color

/-- Names whose hexadecimal form is shorter than the name. -/
def longNames : List (String × Nat) :=
  [("aliceblue", 0xf0f8ff), ("antiquewhite", 0xfaebd7), ("aqua", 0x00ffff),
    ("aquamarine", 0x7fffd4), ("black", 0x000000), ("blanchedalmond", 0xffebcd),
    ("blue", 0x0000ff), ("blueviolet", 0x8a2be2), ("burlywood", 0xdeb887),
    ("cadetblue", 0x5f9ea0), ("chartreuse", 0x7fff00), ("chocolate", 0xd2691e),
    ("cornflowerblue", 0x6495ed), ("cornsilk", 0xfff8dc), ("crimson", 0xdc143c),
    ("cyan", 0x00ffff), ("darkblue", 0x00008b), ("darkcyan", 0x008b8b),
    ("darkgoldenrod", 0xb8860b), ("darkgray", 0xa9a9a9), ("darkgreen", 0x006400),
    ("darkgrey", 0xa9a9a9), ("darkkhaki", 0xbdb76b), ("darkmagenta", 0x8b008b),
    ("darkolivegreen", 0x556b2f), ("darkorange", 0xff8c00), ("darkorchid", 0x9932cc),
    ("darkred", 0x8b0000), ("darksalmon", 0xe9967a), ("darkseagreen", 0x8fbc8f),
    ("darkslateblue", 0x483d8b), ("darkslategray", 0x2f4f4f), ("darkslategrey", 0x2f4f4f),
    ("darkturquoise", 0x00ced1), ("darkviolet", 0x9400d3), ("deeppink", 0xff1493),
    ("deepskyblue", 0x00bfff), ("dimgray", 0x696969), ("dimgrey", 0x696969),
    ("dodgerblue", 0x1e90ff), ("firebrick", 0xb22222), ("floralwhite", 0xfffaf0),
    ("forestgreen", 0x228b22), ("fuchsia", 0xff00ff), ("gainsboro", 0xdcdcdc),
    ("ghostwhite", 0xf8f8ff), ("goldenrod", 0xdaa520), ("grey", 0x808080),
    ("greenyellow", 0xadff2f), ("honeydew", 0xf0fff0), ("hotpink", 0xff69b4),
    ("indianred", 0xcd5c5c), ("lavender", 0xe6e6fa), ("lavenderblush", 0xfff0f5),
    ("lawngreen", 0x7cfc00), ("lemonchiffon", 0xfffacd), ("lightblue", 0xadd8e6),
    ("lightcoral", 0xf08080), ("lightcyan", 0xe0ffff), ("lightgoldenrodyellow", 0xfafad2),
    ("lightgray", 0xd3d3d3), ("lightgreen", 0x90ee90), ("lightgrey", 0xd3d3d3),
    ("lightpink", 0xffb6c1), ("lightsalmon", 0xffa07a), ("lightseagreen", 0x20b2aa),
    ("lightskyblue", 0x87cefa), ("lightslategray", 0x778899), ("lightslategrey", 0x778899),
    ("lightsteelblue", 0xb0c4de), ("lightyellow", 0xffffe0), ("lime", 0x00ff00),
    ("limegreen", 0x32cd32), ("magenta", 0xff00ff), ("mediumaquamarine", 0x66cdaa),
    ("mediumblue", 0x0000cd), ("mediumorchid", 0xba55d3), ("mediumpurple", 0x9370db),
    ("mediumseagreen", 0x3cb371), ("mediumslateblue", 0x7b68ee),
    ("mediumspringgreen", 0x00fa9a), ("mediumturquoise", 0x48d1cc),
    ("mediumvioletred", 0xc71585), ("midnightblue", 0x191970), ("mintcream", 0xf5fffa),
    ("mistyrose", 0xffe4e1), ("moccasin", 0xffe4b5), ("navajowhite", 0xffdead),
    ("oldlace", 0xfdf5e6), ("olivedrab", 0x6b8e23), ("orangered", 0xff4500),
    ("palegoldenrod", 0xeee8aa), ("palegreen", 0x98fb98), ("paleturquoise", 0xafeeee),
    ("palevioletred", 0xdb7093), ("papayawhip", 0xffefd5), ("peachpuff", 0xffdab9),
    ("powderblue", 0xb0e0e6), ("rebeccapurple", 0x663399), ("rosybrown", 0xbc8f8f),
    ("royalblue", 0x4169e1), ("saddlebrown", 0x8b4513), ("sandybrown", 0xf4a460),
    ("seagreen", 0x2e8b57), ("seashell", 0xfff5ee), ("skyblue", 0x87ceeb),
    ("slateblue", 0x6a5acd), ("slategray", 0x708090), ("slategrey", 0x708090),
    ("springgreen", 0x00ff7f), ("steelblue", 0x4682b4), ("thistle", 0xd8bfd8),
    ("turquoise", 0x40e0d0), ("white", 0xffffff), ("whitesmoke", 0xf5f5f5),
    ("yellow", 0xffff00), ("yellowgreen", 0x9acd32)]

/-- Names that are shorter than the hexadecimal form. -/
def shortNames : List (String × Nat) :=
  [("navy", 0x000080), ("green", 0x008000), ("teal", 0x008080), ("indigo", 0x4b0082),
    ("maroon", 0x800000), ("purple", 0x800080), ("olive", 0x808000), ("gray", 0x808080),
    ("sienna", 0xa0522d), ("brown", 0xa52a2a), ("silver", 0xc0c0c0), ("peru", 0xcd853f),
    ("tan", 0xd2b48c), ("orchid", 0xda70d6), ("plum", 0xdda0dd), ("violet", 0xee82ee),
    ("khaki", 0xf0e68c), ("azure", 0xf0ffff), ("wheat", 0xf5deb3), ("beige", 0xf5f5dc),
    ("salmon", 0xfa8072), ("linen", 0xfaf0e6), ("red", 0xff0000), ("tomato", 0xff6347),
    ("coral", 0xff7f50), ("orange", 0xffa500), ("pink", 0xffc0cb), ("gold", 0xffd700),
    ("bisque", 0xffe4c4), ("snow", 0xfffafa), ("ivory", 0xfffff0)]

/-- The colour of a name in small letters. -/
def named? (name : String) : Option Color :=
  if name == "transparent" then some ⟨0, 0⟩
  else ((shortNames.lookup name).or (longNames.lookup name)).map fun rgb => ⟨rgb, 255⟩

/-- The colour of three, four, six or eight hexadecimal digits. -/
def ofHash? (digits : List Char) : Option Color :=
  let doubled := if digits.length ≤ 4 then digits.flatMap fun c => [c, c] else digits
  match doubled.length with
  | 6 => (hexNumber? doubled).map fun rgb => ⟨rgb, 255⟩
  | 8 => (hexNumber? doubled).map fun rgba => ⟨rgba / 256, rgba % 256⟩
  | _ => none

/-- The colour of three bytes. -/
def ofBytes (red green blue alpha : Nat) : Color := ⟨(red * 256 + green) * 256 + blue, alpha⟩

/-- A number between zero and one as a byte. -/
def byteOf (x : Float) : Nat :=
  if x ≤ 0.0 then 0 else if x ≥ 1.0 then 255 else (x * 255.0 + 0.5).floor.toUInt64.toNat

/-- One of red, green and blue by a hue in thirds of a turn. -/
def channel (low high third : Float) : Float :=
  let h := if third < 0.0 then third + 3.0 else if third > 3.0 then third - 3.0 else third
  if h * 2.0 < 1.0 then low + (high - low) * h * 2.0
  else if h * 2.0 < 3.0 then high
  else if h < 2.0 then low + (high - low) * (2.0 - h) * 2.0
  else low

/-- The colour of a hue in turns, a saturation and a lightness. -/
def ofHue (hue saturation lightness : Float) (alpha : Nat) : Color :=
  let high :=
    if lightness ≤ 0.5 then lightness * (saturation + 1.0)
    else lightness + saturation - lightness * saturation
  let low := lightness * 2.0 - high
  let third := (hue - hue.floor) * 3.0
  ofBytes (byteOf (channel low high (third + 1.0))) (byteOf (channel low high third))
    (byteOf (channel low high (third - 1.0))) alpha

/-- The colour that a function of three or four amounts gives. -/
def ofFunction? (function : String) (amounts : List (Amount × String)) : Option Color :=
  let share := fun (full : Float) (x : Amount × String) =>
    if x.2 == "%" then some (x.1.toFloat / 100.0) else if x.2 == "" then some (x.1.toFloat / full) else none
  let color := fun (x y z : Amount × String) (alpha : Nat) =>
    match function with
    | "rgb" | "rgba" => do
      return ofBytes (byteOf (← share 255.0 x)) (byteOf (← share 255.0 y)) (byteOf (← share 255.0 z)) alpha
    | "hsl" | "hsla" =>
      if (x.2 == "" || x.2 == "deg") && y.2 == "%" && z.2 == "%" then
        let unit := fun (a : Amount) => min 1.0 (max 0.0 (a.toFloat / 100.0))
        some (ofHue (x.1.toFloat / 360.0) (unit y.1) (unit z.1) alpha)
      else none
    | _ => none
  match amounts with
  | [x, y, z] => color x y z 255
  | [x, y, z, a] => (share 1.0 a).bind fun alpha => color x y z (byteOf alpha)
  | _ => none

/-- Digits of a number in base sixteen. -/
def digits (places n : Nat) : List Char :=
  (List.range places).reverse.map fun place => Nat.digitChar (n / Nat.pow 16 place % 16)

/-- The first of two digits, if they are all pairs. -/
def halved? : List Char → Option (List Char)
  | a :: b :: rest => if a == b then (halved? rest).map (a :: ·) else none
  | _ => some []

/-- The shortest text of a colour: a short name, or one digit for each byte, or two. -/
def shortest (c : Color) : List Char :=
  let ds := if c.alpha == 255 then digits 6 c.rgb else digits 8 (c.rgb * 256 + c.alpha)
  match if c.alpha == 255 then shortNames.find? fun (_, rgb) => rgb == c.rgb else none with
  | some (name, _) => name.toList
  | none => '#' :: (halved? ds).getD ds

end Color

end LiterateSite.Style
