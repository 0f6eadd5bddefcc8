import TexListing.Color.Rgb

/-!
# The palette

The colours that have names of their own.

* `palette`: every named colour.
-/

namespace TexListing

/-- A colour and the name it is shown under, which may contain spaces. -/
structure Swatch where
  color : Rgb
  name : String
deriving DecidableEq, Repr, Inhabited

/-- The named colours, in the order by red, then green, then blue. -/
def palette : List Swatch :=
  [⟨⟨0x00, 0x00, 0x00⟩, "Black"⟩,
   ⟨⟨0x00, 0x00, 0x80⟩, "Navy"⟩,
   ⟨⟨0x00, 0x00, 0x8B⟩, "Dark Blue"⟩,
   ⟨⟨0x00, 0x00, 0xCD⟩, "Medium Blue"⟩,
   ⟨⟨0x00, 0x00, 0xFF⟩, "Blue"⟩,
   ⟨⟨0x00, 0x64, 0x00⟩, "Dark Green"⟩,
   ⟨⟨0x00, 0x80, 0x00⟩, "Green"⟩,
   ⟨⟨0x00, 0x80, 0x80⟩, "Teal"⟩,
   ⟨⟨0x00, 0x8B, 0x8B⟩, "Dark Cyan"⟩,
   ⟨⟨0x00, 0xBF, 0xFF⟩, "Deep Sky Blue"⟩,
   ⟨⟨0x00, 0xCE, 0xD1⟩, "Dark Turquoise"⟩,
   ⟨⟨0x00, 0xFA, 0x9A⟩, "Medium Spring Green"⟩,
   ⟨⟨0x00, 0xFF, 0x00⟩, "Lime"⟩,
   ⟨⟨0x00, 0xFF, 0x7F⟩, "Spring Green"⟩,
   ⟨⟨0x00, 0xFF, 0xFF⟩, "Cyan"⟩,
   ⟨⟨0x19, 0x19, 0x70⟩, "Midnight Blue"⟩,
   ⟨⟨0x1E, 0x90, 0xFF⟩, "Dodger Blue"⟩,
   ⟨⟨0x20, 0xB2, 0xAA⟩, "Light Sea Green"⟩,
   ⟨⟨0x22, 0x8B, 0x22⟩, "Forest Green"⟩,
   ⟨⟨0x2E, 0x8B, 0x57⟩, "Sea Green"⟩,
   ⟨⟨0x2F, 0x4F, 0x4F⟩, "Dark Slate Gray"⟩,
   ⟨⟨0x32, 0xCD, 0x32⟩, "Lime Green"⟩,
   ⟨⟨0x3C, 0xB3, 0x71⟩, "Medium Sea Green"⟩,
   ⟨⟨0x40, 0xE0, 0xD0⟩, "Turquoise"⟩,
   ⟨⟨0x41, 0x69, 0xE1⟩, "Royal Blue"⟩,
   ⟨⟨0x46, 0x82, 0xB4⟩, "Steel Blue"⟩,
   ⟨⟨0x48, 0x3D, 0x8B⟩, "Dark Slate Blue"⟩,
   ⟨⟨0x48, 0xD1, 0xCC⟩, "Medium Turquoise"⟩,
   ⟨⟨0x4B, 0x00, 0x82⟩, "Indigo"⟩,
   ⟨⟨0x55, 0x6B, 0x2F⟩, "Dark Olive Green"⟩,
   ⟨⟨0x5F, 0x9E, 0xA0⟩, "Cadet Blue"⟩,
   ⟨⟨0x64, 0x95, 0xED⟩, "Cornflower Blue"⟩,
   ⟨⟨0x66, 0x33, 0x99⟩, "Rebecca Purple"⟩,
   ⟨⟨0x66, 0xCD, 0xAA⟩, "Medium Aquamarine"⟩,
   ⟨⟨0x69, 0x69, 0x69⟩, "Dim Gray"⟩,
   ⟨⟨0x6A, 0x5A, 0xCD⟩, "Slate Blue"⟩,
   ⟨⟨0x6B, 0x8E, 0x23⟩, "Olive Drab"⟩,
   ⟨⟨0x70, 0x80, 0x90⟩, "Slate Gray"⟩,
   ⟨⟨0x77, 0x88, 0x99⟩, "Light Slate Gray"⟩,
   ⟨⟨0x7B, 0x68, 0xEE⟩, "Medium Slate Blue"⟩,
   ⟨⟨0x7C, 0xFC, 0x00⟩, "Lawn Green"⟩,
   ⟨⟨0x7F, 0xFF, 0x00⟩, "Chartreuse"⟩,
   ⟨⟨0x7F, 0xFF, 0xD4⟩, "Aquamarine"⟩,
   ⟨⟨0x80, 0x00, 0x00⟩, "Maroon"⟩,
   ⟨⟨0x80, 0x00, 0x80⟩, "Purple"⟩,
   ⟨⟨0x80, 0x80, 0x00⟩, "Olive"⟩,
   ⟨⟨0x80, 0x80, 0x80⟩, "Gray"⟩,
   ⟨⟨0x87, 0xCE, 0xEB⟩, "Sky Blue"⟩,
   ⟨⟨0x87, 0xCE, 0xFA⟩, "Light Sky Blue"⟩,
   ⟨⟨0x8A, 0x2B, 0xE2⟩, "Blue Violet"⟩,
   ⟨⟨0x8B, 0x00, 0x00⟩, "Dark Red"⟩,
   ⟨⟨0x8B, 0x00, 0x8B⟩, "Dark Magenta"⟩,
   ⟨⟨0x8B, 0x45, 0x13⟩, "Saddle Brown"⟩,
   ⟨⟨0x8F, 0xBC, 0x8F⟩, "Dark Sea Green"⟩,
   ⟨⟨0x90, 0xEE, 0x90⟩, "Light Green"⟩,
   ⟨⟨0x93, 0x70, 0xDB⟩, "Medium Purple"⟩,
   ⟨⟨0x94, 0x00, 0xD3⟩, "Dark Violet"⟩,
   ⟨⟨0x98, 0xFB, 0x98⟩, "Pale Green"⟩,
   ⟨⟨0x99, 0x32, 0xCC⟩, "Dark Orchid"⟩,
   ⟨⟨0x9A, 0xCD, 0x32⟩, "Yellow Green"⟩,
   ⟨⟨0xA0, 0x52, 0x2D⟩, "Sienna"⟩,
   ⟨⟨0xA5, 0x2A, 0x2A⟩, "Brown"⟩,
   ⟨⟨0xA9, 0xA9, 0xA9⟩, "Dark Gray"⟩,
   ⟨⟨0xAD, 0xD8, 0xE6⟩, "Light Blue"⟩,
   ⟨⟨0xAD, 0xFF, 0x2F⟩, "Green Yellow"⟩,
   ⟨⟨0xAF, 0xEE, 0xEE⟩, "Pale Turquoise"⟩,
   ⟨⟨0xB0, 0xC4, 0xDE⟩, "Light Steel Blue"⟩,
   ⟨⟨0xB0, 0xE0, 0xE6⟩, "Powder Blue"⟩,
   ⟨⟨0xB2, 0x22, 0x22⟩, "Fire Brick"⟩,
   ⟨⟨0xB8, 0x86, 0x0B⟩, "Dark Goldenrod"⟩,
   ⟨⟨0xBA, 0x55, 0xD3⟩, "Medium Orchid"⟩,
   ⟨⟨0xBC, 0x8F, 0x8F⟩, "Rosy Brown"⟩,
   ⟨⟨0xBD, 0xB7, 0x6B⟩, "Dark Khaki"⟩,
   ⟨⟨0xC0, 0xC0, 0xC0⟩, "Silver"⟩,
   ⟨⟨0xC7, 0x15, 0x85⟩, "Medium Violet Red"⟩,
   ⟨⟨0xCD, 0x5C, 0x5C⟩, "Indian Red"⟩,
   ⟨⟨0xCD, 0x85, 0x3F⟩, "Peru"⟩,
   ⟨⟨0xD2, 0x69, 0x1E⟩, "Chocolate"⟩,
   ⟨⟨0xD2, 0xB4, 0x8C⟩, "Tan"⟩,
   ⟨⟨0xD3, 0xD3, 0xD3⟩, "Light Gray"⟩,
   ⟨⟨0xD8, 0xBF, 0xD8⟩, "Thistle"⟩,
   ⟨⟨0xDA, 0x70, 0xD6⟩, "Orchid"⟩,
   ⟨⟨0xDA, 0xA5, 0x20⟩, "Goldenrod"⟩,
   ⟨⟨0xDB, 0x70, 0x93⟩, "Pale Violet Red"⟩,
   ⟨⟨0xDC, 0x14, 0x3C⟩, "Crimson"⟩,
   ⟨⟨0xDC, 0xDC, 0xDC⟩, "Gainsboro"⟩,
   ⟨⟨0xDD, 0xA0, 0xDD⟩, "Plum"⟩,
   ⟨⟨0xDE, 0xB8, 0x87⟩, "Burly Wood"⟩,
   ⟨⟨0xE0, 0xFF, 0xFF⟩, "Light Cyan"⟩,
   ⟨⟨0xE6, 0xE6, 0xFA⟩, "Lavender"⟩,
   ⟨⟨0xE9, 0x96, 0x7A⟩, "Dark Salmon"⟩,
   ⟨⟨0xEE, 0x82, 0xEE⟩, "Violet"⟩,
   ⟨⟨0xEE, 0xE8, 0xAA⟩, "Pale Goldenrod"⟩,
   ⟨⟨0xF0, 0x80, 0x80⟩, "Light Coral"⟩,
   ⟨⟨0xF0, 0xE6, 0x8C⟩, "Khaki"⟩,
   ⟨⟨0xF0, 0xF8, 0xFF⟩, "Alice Blue"⟩,
   ⟨⟨0xF0, 0xFF, 0xF0⟩, "Honeydew"⟩,
   ⟨⟨0xF0, 0xFF, 0xFF⟩, "Azure"⟩,
   ⟨⟨0xF4, 0xA4, 0x60⟩, "Sandy Brown"⟩,
   ⟨⟨0xF5, 0xDE, 0xB3⟩, "Wheat"⟩,
   ⟨⟨0xF5, 0xF5, 0xDC⟩, "Beige"⟩,
   ⟨⟨0xF5, 0xF5, 0xF5⟩, "White Smoke"⟩,
   ⟨⟨0xF5, 0xFF, 0xFA⟩, "Mint Cream"⟩,
   ⟨⟨0xF8, 0xF8, 0xFF⟩, "Ghost White"⟩,
   ⟨⟨0xFA, 0x80, 0x72⟩, "Salmon"⟩,
   ⟨⟨0xFA, 0xEB, 0xD7⟩, "Antique White"⟩,
   ⟨⟨0xFA, 0xF0, 0xE6⟩, "Linen"⟩,
   ⟨⟨0xFA, 0xFA, 0xD2⟩, "Light Goldenrod Yellow"⟩,
   ⟨⟨0xFD, 0xF5, 0xE6⟩, "Old Lace"⟩,
   ⟨⟨0xFF, 0x00, 0x00⟩, "Red"⟩,
   ⟨⟨0xFF, 0x00, 0xFF⟩, "Magenta"⟩,
   ⟨⟨0xFF, 0x14, 0x93⟩, "Deep Pink"⟩,
   ⟨⟨0xFF, 0x45, 0x00⟩, "Orange Red"⟩,
   ⟨⟨0xFF, 0x63, 0x47⟩, "Tomato"⟩,
   ⟨⟨0xFF, 0x69, 0xB4⟩, "Hot Pink"⟩,
   ⟨⟨0xFF, 0x7F, 0x50⟩, "Coral"⟩,
   ⟨⟨0xFF, 0x8C, 0x00⟩, "Dark Orange"⟩,
   ⟨⟨0xFF, 0xA0, 0x7A⟩, "Light Salmon"⟩,
   ⟨⟨0xFF, 0xA5, 0x00⟩, "Orange"⟩,
   ⟨⟨0xFF, 0xB6, 0xC1⟩, "Light Pink"⟩,
   ⟨⟨0xFF, 0xC0, 0xCB⟩, "Pink"⟩,
   ⟨⟨0xFF, 0xD7, 0x00⟩, "Gold"⟩,
   ⟨⟨0xFF, 0xDA, 0xB9⟩, "Peach Puff"⟩,
   ⟨⟨0xFF, 0xDE, 0xAD⟩, "Navajo White"⟩,
   ⟨⟨0xFF, 0xE4, 0xB5⟩, "Moccasin"⟩,
   ⟨⟨0xFF, 0xE4, 0xC4⟩, "Bisque"⟩,
   ⟨⟨0xFF, 0xE4, 0xE1⟩, "Misty Rose"⟩,
   ⟨⟨0xFF, 0xEB, 0xCD⟩, "Blanched Almond"⟩,
   ⟨⟨0xFF, 0xEF, 0xD5⟩, "Papaya Whip"⟩,
   ⟨⟨0xFF, 0xF0, 0xF5⟩, "Lavender Blush"⟩,
   ⟨⟨0xFF, 0xF5, 0xEE⟩, "Seashell"⟩,
   ⟨⟨0xFF, 0xF8, 0xDC⟩, "Cornsilk"⟩,
   ⟨⟨0xFF, 0xFA, 0xCD⟩, "Lemon Chiffon"⟩,
   ⟨⟨0xFF, 0xFA, 0xF0⟩, "Floral White"⟩,
   ⟨⟨0xFF, 0xFA, 0xFA⟩, "Snow"⟩,
   ⟨⟨0xFF, 0xFF, 0x00⟩, "Yellow"⟩,
   ⟨⟨0xFF, 0xFF, 0xE0⟩, "Light Yellow"⟩,
   ⟨⟨0xFF, 0xFF, 0xF0⟩, "Ivory"⟩,
   ⟨⟨0xFF, 0xFF, 0xFF⟩, "White"⟩]

end TexListing
