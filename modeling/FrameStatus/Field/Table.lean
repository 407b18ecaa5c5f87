import FrameStatus.Field.Basic

/-!
# The fields of the two vectors

The field tables of the controller's data sheet, in the order in which fields are reported.
-/

namespace FrameStatus

/-- The fields of the receive vector, lowest bit first. Bits 17 and 19 belong to none. -/
def receiveFields : List Field :=
  [.byteCount "Received Byte Count" 0
      ("Indicates length of the received frame. This includes the destination address, source " ++
        "address, type/length, data, padding and CRC fields. This field is stored in " ++
        "little-endian format."),
    .flag "Long Event/Drop Event" 5 0x01 .zero
      ("Indicates a packet over 50,000 bit times occurred or that a packet was dropped since " ++
        "the last receive."),
    .flag "Carrier Event Previously Seen" 5 0x04 .neutral
      ("Indicates that at some time since the last receive, a carrier event was detected. The " ++
        "carrier event is not associated with this packet. A carrier event is activity on the " ++
        "receive channel that does not result in a packet receive attempt being made."),
    .flag "CRC Error" 4 0x01 .zero
      "Indicates that frame CRC field value does not match the CRC calculated by the MAC.",
    .flag "Length Check Error" 4 0x02 .zero
      ("Indicates that frame length field value in the packet does not match the actual data " ++
        "byte length and specifies a valid length."),
    .flag "Length Out of Range" 4 0x04 .neutral
      "Indicates that frame type/length field was larger than 1500 bytes (type field).",
    .flag "Received OK" 4 0x08 .nonzero
      "Indicates that the packet had a valid CRC and no symbol errors.",
    .flag "Receive Multicast Packet" 7 0x01 .neutral
      "Indicates packet received had a valid Multicast address.",
    .flag "Receive Broadcast Packet" 7 0x02 .neutral
      "Indicates packet received had a valid Broadcast address.",
    .flag "Dribble Nibble" 7 0x04 .zero
      ("Indicates that after the end of this packet, an additional 1 to 7 bits were received. " ++
        "The extra bits were thrown away."),
    .flag "Receive Control Frame" 7 0x08 .neutral
      ("Current frame was recognized as a control frame for having a valid type/length " ++
        "designating it as a control frame."),
    .flag "Receive Pause Control Frame" 6 0x01 .neutral
      ("Current frame was recognized as a control frame containing a valid pause frame opcode " ++
        "and a valid destination address."),
    .flag "Receive Unknown Opcode" 6 0x02 .neutral
      "Current frame was recognized as a control frame but it contained an unknown opcode.",
    .flag "Receive VLAN Type Detected" 6 0x04 .neutral
      "Current frame was recognized as a VLAN tagged frame.",
    .flag "Reserved" 6 0x08 .zero
      "Reserved. This bit will always be '0'."]

/-- The fields of the transmit vector, lowest bit first. Bits 48 and 49 are read twice, and bit 51
belongs to no field. -/
def transmitFields : List Field :=
  [.byteCount "Transmit Byte Count" 0
      "Total bytes in frame not counting collided bytes.",
    .nibble "Transmit Collision Count" 5
      ("Number of collisions the current packet incurred during transmission attempts. It " ++
        "applies to successfully transmitted packets and as such, will not show the possible " ++
        "maximum count of 16 collisions."),
    .flag "Transmit CRC Error" 4 0x01 .zero
      "The attached CRC in the packet did not match the internally generated CRC.",
    .flag "Transmit Length Check Error" 4 0x02 .zero
      ("Indicates that frame length field value in the packet does not match the actual data " ++
        "byte length and is not a type field. MACON3.FRMLNEN must be set to get this error."),
    .flag "Transmit Length Out of Range" 4 0x04 .neutral
      "Indicates that frame type/length field was larger than 1500 bytes (type field).",
    .flag "Transmit Done" 4 0x08 .nonzero
      "Transmission of the packet was completed.",
    .flag "Transmit Multicast" 7 0x01 .neutral
      "Packet's destination address was a Multicast address.",
    .flag "Transmit Broadcast" 7 0x02 .neutral
      "Packet's destination address was a Broadcast address.",
    .flag "Transmit Packet Defer" 7 0x04 .neutral
      "Packet was deferred for at least one attempt but less than an excessive defer.",
    .flag "Transmit Excessive Defer" 7 0x08 .neutral
      "Packet was deferred in excess of 24287 bit times (2.4287 ms).",
    .flag "Transmit Excessive Collision" 6 0x01 .zero
      ("Packet was aborted after the number of collisions exceeded the retransmission maximum " ++
        "(MACLCON1)."),
    .flag "Transmit Late Collision" 6 0x02 .zero
      "Collision occurred beyond the collision window (MACLCON2).",
    .flag "Transmit Giant" 6 0x04 .neutral
      "Byte count for frame was greater than MAMXFL.",
    .flag "Transmit Underrun" 6 0x08 .zero
      "Reserved. This bit will always be '0'.",
    .byteCount "Total Bytes Transmitted on Wire" 4
      ("Total bytes transmitted on the wire for the current packet, including all bytes from " ++
        "collided attempts."),
    .flag "Transmit Control Frame" 13 0x01 .neutral
      "The frame transmitted was a control frame.",
    .flag "Transmit Pause Control Frame" 13 0x02 .neutral
      "The frame transmitted was a control frame with a valid pause opcode.",
    .flag "Backpressure Applied" 13 0x03 .neutral
      "Carrier sense method backpressure was previously applied.",
    .flag "Transmit VLAN Frame" 13 0x04 .neutral
      "Frame's length/type field contained 8100h which is the VLAN protocol identifier.",
    .nibble "Reserved" 12
      "Reserved. These bits will always be '0'."]

/-- The fields of a vector of this kind. -/
def Kind.fields : Kind → List Field
  | receive => receiveFields
  | transmit => transmitFields

/-- No field reaches past the end of its vector. -/
theorem Kind.lastDigit_lt_of_mem_fields {kind : Kind} {field : Field} (h : field ∈ kind.fields) :
    field.slice.lastDigit < kind.hexLength := by
  have hall : ∀ f ∈ kind.fields, f.slice.lastDigit < kind.hexLength := by
    cases kind <;> decide
  exact hall field h

end FrameStatus
