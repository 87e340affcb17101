import MediaDispatch.Capability.Code
import MediaDispatch.Capability.Description

/-! # Reference descriptions

    Descriptions of three typical implementations: the software reference,
    a hardware implementation, and one that decodes a single codec. -/

namespace MediaDispatch.Reference

/-- The sizes of the software reference. -/
def cpuSizes : SizeRange := ⟨64, 4096, 8⟩

def cpuSurface : Surface :=
  ⟨Code.systemSurface, cpuSizes, cpuSizes, [Code.i420, Code.i010]⟩

def gpuSurface : Surface :=
  ⟨Code.vaSurface, ⟨16, 16384, 16⟩, ⟨16, 16384, 16⟩, [Code.nv12, Code.p010]⟩

/-- The software reference implementation. -/
def cpu (apiVersion : ApiVersion) : Description :=
  { Description.bare "oneAPI VPL CPU Reference Impl" .software apiVersion with
    accelerationMode := Code.noAcceleration
    license := "MIT"
    keywords := "CPU,software,reference"
    vendorId := Code.intel
    device := ⟨"0000", 0⟩
    functions := ["MFXInitEx", "MFXClose", "MFXQueryIMPL", "MFXQueryVersion",
      "MFXVideoDECODE_Init", "MFXVideoDECODE_DecodeFrameAsync", "MFXVideoENCODE_Init",
      "MFXVideoVPP_Init"]
    decoders := [Code.av1, Code.avc, Code.hevc, Code.jpeg, Code.mpeg2].map
      fun codec => ⟨codec, 51, [⟨0, [cpuSurface]⟩]⟩
    encoders := [Code.av1, Code.avc, Code.hevc, Code.jpeg].map
      fun codec => ⟨codec, 51, if codec = Code.jpeg then 0 else 1, [⟨0, [cpuSurface]⟩]⟩
    filters := [⟨Code.scaling, 0, [⟨Code.systemSurface, cpuSizes, cpuSizes,
      [⟨Code.i420, [Code.i420, Code.i010, Code.rgb4]⟩]⟩]⟩] }

/-- A hardware implementation. -/
def gpu (apiVersion : ApiVersion) : Description :=
  { Description.bare "mfx-gen" .hardware apiVersion with
    accelerationMode := Code.vaapi
    license := "MIT"
    keywords := "GPU;hardware"
    vendorId := Code.intel
    vendorImplId := 1
    device := ⟨"56a0", 1⟩
    functions := ["MFXInitEx", "MFXClose", "MFXVideoDECODE_Init", "MFXVideoENCODE_Init"]
    decoders := [Code.avc, Code.hevc, Code.vp9, Code.av1].map
      fun codec => ⟨codec, 62, [⟨1, [gpuSurface]⟩]⟩
    encoders := [Code.avc, Code.hevc].map
      fun codec => ⟨codec, 62, 1, [⟨1, [gpuSurface]⟩]⟩ }

/-- An implementation that decodes one codec. -/
def singleDecoder (name : String) (kind : ImplKind) (apiVersion : ApiVersion)
    (codec : UInt32) : Description :=
  { Description.bare name kind apiVersion with
    decoders := [⟨codec, 51, [⟨0, [cpuSurface]⟩]⟩] }

end MediaDispatch.Reference
