import TelescopePointing.Model.Basic

namespace TelescopePointing

variable {α : Type} [Scalar α]

namespace AltAzimuth

/-- Index offsets, collimation, axis tilts and flexure of a mount that turns in azimuth and
altitude. -/
def parameters : List String := ["IA", "CA", "NPAE", "AN", "AW", "IE", "TF", "RF"]

def terms : AxisTerms α where
  longitude := [
    ⟨0, fun x b => x * b.cosLatitude⟩,
    ⟨1, fun x _ => x⟩,
    ⟨2, fun x b => x * b.sinLatitude⟩,
    ⟨3, fun x b => x * b.cosLongitude * b.sinLatitude⟩,
    ⟨4, fun x b => x * b.sinLongitude * b.sinLatitude⟩]
  latitude := [
    ⟨5, fun x _ => x⟩,
    ⟨6, fun x b => x * b.cosLatitude⟩,
    ⟨3, fun x b => -(x * b.sinLongitude)⟩,
    ⟨4, fun x b => x * b.cosLongitude⟩,
    ⟨7, fun x b => x * b.cosLatitude / b.sinLatitude⟩]

/-- The second harmonics of azimuth along either axis, which take up an uneven track. -/
def harmonicParameters : List String := ["AS2A", "AC2A", "ES2A", "EC2A"]

def harmonicTerms : AxisTerms α where
  longitude := [⟨8, fun x b => x * b.sinDouble⟩, ⟨9, fun x b => x * b.cosDouble⟩]
  latitude := [⟨10, fun x b => x * b.sinDouble⟩, ⟨11, fun x b => x * b.cosDouble⟩]

def basicName : String := "condon1992"

def harmonicName : String := "condon1992_poly"

def basic : PointingModel α := .ofTerms basicName "condon1992" .horizon parameters terms

def harmonic : PointingModel α :=
  .ofTerms harmonicName "c_plus_poly" .horizon (parameters ++ harmonicParameters)
    (terms.append harmonicTerms)

end AltAzimuth

namespace Equatorial

/-- Index offsets, collimation, axis errors and flexure of a mount that turns in hour angle and
declination. -/
def parameters : List String := ["IH", "ID", "CH", "NP", "MA", "ME", "TF", "FO", "DAF"]

/-- The terms of the mount at the latitude of its site. -/
def terms (siteLatitude : α) : AxisTerms α :=
  let sp := Scalar.sin siteLatitude
  let cp := Scalar.cos siteLatitude
  { longitude := [
      ⟨0, fun x b => x * b.cosLatitude⟩,
      ⟨2, fun x _ => x⟩,
      ⟨3, fun x b => x * b.sinLatitude⟩,
      ⟨4, fun x b => -(x * b.cosLongitude * b.sinLatitude)⟩,
      ⟨5, fun x b => x * b.sinLongitude * b.sinLatitude⟩,
      ⟨6, fun x b => x * cp * b.sinLongitude⟩,
      ⟨8, fun x b => -(x * (cp * b.cosLongitude * b.cosLatitude + sp * b.sinLatitude))⟩]
    latitude := [
      ⟨1, fun x _ => x⟩,
      ⟨4, fun x b => x * b.sinLongitude⟩,
      ⟨5, fun x b => x * b.cosLongitude⟩,
      ⟨6, fun x b => x * (cp * b.cosLongitude * b.sinLatitude - sp * b.cosLatitude)⟩,
      ⟨7, fun x b => x * b.cosLongitude⟩] }

def name : String := "buie2003"

def model (siteLatitude : α) : PointingModel α :=
  .ofTerms name "buie2003" .hourAngle parameters (terms siteLatitude)

end Equatorial

end TelescopePointing
