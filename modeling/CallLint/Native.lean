import CallLint.Text

/-!
# Native functions

The functions that style sheets know of themselves. Their arguments have no names, so calls of them
are never checked. ASCII case does not matter.
-/

namespace CallLint

open Text

/-- The names of the native functions, in lower case. -/
def nativeNames : List String :=
  ["annotation", "attr", "blur", "brightness", "calc", "character-variant", "circle", "clamp",
   "color-mix", "conic-gradient", "contrast", "counter", "counters", "cross-fade",
   "cubic-bezier", "drop-shadow", "element", "ellipse", "env", "fit-content", "format", "frames",
   "grayscale", "hsl", "hsla", "hue-rotate", "hwb", "image", "image-set", "inset", "invert",
   "lab", "lch", "leader", "linear-gradient", "local", "matrix", "matrix3d", "max", "min",
   "minmax", "opacity", "ornaments", "path", "perspective", "polygon", "radial-gradient", "rect",
   "repeat", "repeating-conic-gradient", "repeating-linear-gradient",
   "repeating-radial-gradient", "rgb", "rgba", "rotate", "rotate3d", "rotatex", "rotatey",
   "rotatez", "saturate", "scale", "scale3d", "scalex", "scaley", "scalez", "sepia", "skew",
   "skewx", "skewy", "steps", "styleset", "stylistic", "swash", "symbols", "target-counter",
   "target-counters", "target-text", "translate", "translate3d", "translatex", "translatey",
   "translatez", "url", "var"]

/-- Whether a function is native. -/
def isNative (name : Text) : Bool := nativeNames.any fun native => native.toList = lowerAscii name

/-- Names that differ in ASCII case only are native together. -/
theorem isNative_congr {a b : Text} (h : lowerAscii a = lowerAscii b) :
    isNative a = isNative b := by
  unfold isNative
  rw [h]

end CallLint
