import Chip8Console.Display.Resolution
import Chip8Console.Display.Surface
import Chip8Console.Failure

/-!
# Rendering frames

The machine hands over its display as one byte per pixel, row by row.  A renderer turns such a frame into one square
per pixel, filled where the byte is not zero and cleared where it is.  It keeps nothing from frame to frame; each
frame is drawn as a whole.  A frame of the wrong length is refused, and then nothing is drawn.
-/

namespace Chip8Console

structure Renderer where
  resolution : Resolution
  foreground : Colour

namespace Renderer

variable {s : Type} [Surface s]

def check (r : Renderer) (pixels : List UInt8) : Except Failure Unit :=
  if pixels.length = r.resolution.pixelCount then .ok ()
  else .error (.malformedFrame r.resolution.pixelCount pixels.length)

def drawPixel (r : Renderer) (index : Nat) (pixel : UInt8) (surface : s) : s :=
  let scale := r.resolution.scale
  let x := index % r.resolution.width * scale
  let y := index / r.resolution.width * scale
  if pixel = 0 then Surface.clearSquare surface x y scale
  else Surface.fillSquare surface x y scale r.foreground

def drawFrom (r : Renderer) : Nat → List UInt8 → s → s
  | _, [], surface => surface
  | index, pixel :: pixels, surface =>
    drawFrom r (index + 1) pixels (r.drawPixel index pixel surface)

/-- Draws a frame, unless it has the wrong length. -/
def render (r : Renderer) (pixels : List UInt8) (surface : s) : s × Except Failure Unit :=
  match r.check pixels with
  | .ok () => (r.drawFrom 0 pixels surface, .ok ())
  | .error failure => (surface, .error failure)

end Renderer

end Chip8Console
