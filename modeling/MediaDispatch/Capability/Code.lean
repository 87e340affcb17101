/-! # Well-known codes

    Codecs, colour formats and video filters are named by four characters
    packed into 32 bits, the first in the lowest octet.  The other codes are
    plain numbers. -/

namespace MediaDispatch.Code

/-- Packs four octets, the first in the lowest place. -/
def fourOctets (a b c d : UInt8) : UInt32 :=
  a.toUInt32 ||| b.toUInt32 <<< 8 ||| c.toUInt32 <<< 16 ||| d.toUInt32 <<< 24

/-- Packs four ASCII characters. -/
def fourCharacters (a b c d : Char) : UInt32 :=
  fourOctets a.toUInt8 b.toUInt8 c.toUInt8 d.toUInt8

/-! ## Section 1: Codecs -/

def avc : UInt32 := fourCharacters 'A' 'V' 'C' ' '
def hevc : UInt32 := fourCharacters 'H' 'E' 'V' 'C'
def mpeg2 : UInt32 := fourCharacters 'M' 'P' 'G' '2'
def vc1 : UInt32 := fourCharacters 'V' 'C' '1' ' '
def vp8 : UInt32 := fourCharacters 'V' 'P' '8' ' '
def vp9 : UInt32 := fourCharacters 'V' 'P' '9' ' '
def av1 : UInt32 := fourCharacters 'A' 'V' '1' ' '
def jpeg : UInt32 := fourCharacters 'J' 'P' 'E' 'G'

def codecs : List UInt32 := [avc, hevc, mpeg2, vc1, vp8, vp9, av1, jpeg]

/-! ## Section 2: Colour formats and video filters -/

def nv12 : UInt32 := fourCharacters 'N' 'V' '1' '2'
def i420 : UInt32 := fourCharacters 'I' '4' '2' '0'
def i010 : UInt32 := fourCharacters 'I' '0' '1' '0'
def p010 : UInt32 := fourCharacters 'P' '0' '1' '0'
def yuy2 : UInt32 := fourCharacters 'Y' 'U' 'Y' '2'
def rgb4 : UInt32 := fourCharacters 'R' 'G' 'B' '4'

def colors : List UInt32 := [nv12, i420, i010, p010, yuy2, rgb4]

def denoise : UInt32 := fourCharacters 'D' 'N' 'I' 'S'
def scaling : UInt32 := fourCharacters 'V' 'S' 'C' 'L'
def colorConversion : UInt32 := fourCharacters 'V' 'C' 'S' 'C'
def procAmp : UInt32 := fourCharacters 'P' 'A' 'M' 'P'

def videoFilters : List UInt32 := [denoise, scaling, colorConversion, procAmp]

/-! ## Section 3: Memory, acceleration and vendors -/

def systemSurface : UInt32 := 1
def vaSurface : UInt32 := 2
def vaBuffer : UInt32 := 3
def dx9Surface : UInt32 := 4
def dx11Texture : UInt32 := 5
def dx12Resource : UInt32 := 6
def dmaResource : UInt32 := 7

def resources : List UInt32 :=
  [systemSurface, vaSurface, vaBuffer, dx9Surface, dx11Texture, dx12Resource, dmaResource]

def noAcceleration : UInt32 := 0
def d3d11 : UInt32 := 0x0300
def d3d12 : UInt32 := 0x0400
def vaapi : UInt32 := 0x0500
def vaapiRenderNode : UInt32 := 0x0501

def accelerations : List UInt32 := [noAcceleration, d3d11, d3d12, vaapi, vaapiRenderNode]

def intel : UInt32 := 0x8086

def vendors : List UInt32 := [intel]

end MediaDispatch.Code
