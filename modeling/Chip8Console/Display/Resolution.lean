/-!
# Resolutions

A picture has a logical width and height in pixels, and a scale: the side of the square of surface cells that
shows one pixel.
-/

namespace Chip8Console

/-- The width of the machine's display, in pixels. -/
def displayWidth : Nat := 64

/-- The height of the machine's display, in pixels. -/
def displayHeight : Nat := 32

/-- Surface cells to a pixel, each way, unless the settings say otherwise. -/
def defaultScale : Nat := 8

/-- Pixels across and down, and surface cells to a pixel. -/
structure Resolution where
  width : Nat := displayWidth
  height : Nat := displayHeight
  scale : Nat := defaultScale
deriving DecidableEq

namespace Resolution

def pixelCount (r : Resolution) : Nat :=
  r.width * r.height

def surfaceWidth (r : Resolution) : Nat :=
  r.width * r.scale

def surfaceHeight (r : Resolution) : Nat :=
  r.height * r.scale

/-- The horizontal ends of a canvas with one point to a pixel. -/
def xBounds (r : Resolution) : Float × Float :=
  (0, Float.ofNat (r.width - 1))

/-- The vertical ends of a canvas with one point to a pixel; the canvas grows downward from zero. -/
def yBounds (r : Resolution) : Float × Float :=
  (-1 * Float.ofNat (r.height - 1), 0)

end Resolution

end Chip8Console
